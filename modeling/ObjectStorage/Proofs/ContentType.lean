import ObjectStorage.ContentType
import ObjectStorage.Storage.Address
import Mathlib.Data.List.DropRight

/-! The extension of a path is what follows the last dot of its last component
(`ContentType.extension_exact`), so a prefix that ends with a slash does not change the type that is
told from a key (`ContentType.detect_prefixed`). -/

namespace ObjectStorage

namespace ContentType

/-- What a path begins with before its last component: nothing, or what ends with a slash. -/
inductive IsFolder : String → Prop where
  | nothing : IsFolder ""
  | slashed (before : String) : IsFolder (before ++ "/")

/-- How a path has an extension. Dots of the folder do not count, and of the dots of a name only the
last. -/
inductive HasExtension : String → String → Prop where
  | dotted {folder stem ending : String} (front : IsFolder folder) (name : '/' ∉ stem.toList)
      (last : '.' ∉ ending.toList) (inside : '/' ∉ ending.toList) :
      HasExtension (folder ++ stem ++ "." ++ ending) ending
  | bare {folder name : String} (front : IsFolder folder) (plain : '.' ∉ name.toList)
      (inside : '/' ∉ name.toList) : HasExtension (folder ++ name) ""

variable {c : Char} {text : List Char} {path ending : String}

/-- What follows the last of a character is the same whatever comes before one of them. -/
theorem rtakeWhile_append_cons (c : Char) (before after : List Char) :
    (before ++ c :: after).rtakeWhile (· != c) = after.rtakeWhile (· != c) := by
  -- The search begins at the end of the text, so the induction takes characters off there.
  induction after using List.reverseRecOn with
  | nil => simp
  | append_singleton after last ih =>
    rw [← List.cons_append, ← List.append_assoc, List.rtakeWhile_concat, List.rtakeWhile_concat,
      ih]

theorem rtakeWhile_of_not_mem (missing : c ∉ text) : text.rtakeWhile (· != c) = text := by
  apply List.rtakeWhile_eq_self_iff.mpr
  intro other member
  simp only [bne_iff_ne]
  rintro rfl
  exact missing member

/-- A character that is there is there for a last time. -/
theorem exists_last (member : c ∈ text) :
    ∃ before after, text = before ++ c :: after ∧ c ∉ after := by
  induction text with
  | nil => simp at member
  | cons first text ih =>
    by_cases later : c ∈ text
    · obtain ⟨before, after, rfl, last⟩ := ih later
      exact ⟨first :: before, after, rfl, last⟩
    · have here : c = first := (List.mem_cons.mp member).resolve_right later
      exact ⟨[], text, by rw [here, List.nil_append], later⟩

theorem lastComponent_append (before name : List Char) :
    lastComponent (before ++ '/' :: name) = lastComponent name :=
  rtakeWhile_append_cons '/' before name

theorem lastComponent_of_plain (plain : '/' ∉ text) : lastComponent text = text :=
  rtakeWhile_of_not_mem plain

theorem afterLastDot_append (stem : List Char) (plain : '.' ∉ text) :
    afterLastDot (stem ++ '.' :: text) = text := by
  have dotted : '.' ∈ stem ++ '.' :: text := by simp
  rw [afterLastDot, if_pos dotted]
  exact (rtakeWhile_append_cons '.' stem text).trans (rtakeWhile_of_not_mem plain)

theorem afterLastDot_of_plain (plain : '.' ∉ text) : afterLastDot text = [] := if_neg plain

theorem IsFolder.lastComponent_eq {folder : String} (front : IsFolder folder) (name : String) :
    lastComponent (folder ++ name).toList = lastComponent name.toList := by
  cases front with
  | nothing => rw [String.empty_append]
  | slashed before =>
    have characters : (before ++ "/" ++ name).toList = before.toList ++ '/' :: name.toList := by
      simp
    rw [characters, lastComponent_append]

/-- Every path has a folder and a name. -/
theorem exists_folder (path : String) :
    ∃ folder name, path = folder ++ name ∧ IsFolder folder ∧ '/' ∉ name.toList := by
  by_cases slashed : '/' ∈ path.toList
  · obtain ⟨before, after, whole, last⟩ := exists_last slashed
    refine ⟨String.ofList before ++ "/", String.ofList after, ?_, .slashed _, by simpa using last⟩
    apply String.toList_injective
    simp [whole]
  · exact ⟨"", path, String.empty_append.symm, .nothing, slashed⟩

theorem extension_of_folder {folder : String} (front : IsFolder folder) (name : String) :
    extension (folder ++ name) = extension name := by
  rw [extension, front.lastComponent_eq, extension]

theorem HasExtension.extension_eq (has : HasExtension path ending) : extension path = ending := by
  cases has with
  | @dotted folder stem _ front name last inside =>
    have characters : (stem ++ "." ++ ending).toList = stem.toList ++ '.' :: ending.toList := by
      simp
    have plain : '/' ∉ (stem ++ "." ++ ending).toList := by simp [name, inside]
    have parts : folder ++ stem ++ "." ++ ending = folder ++ (stem ++ "." ++ ending) := by
      simp only [String.append_assoc]
    rw [parts, extension_of_folder front, extension, lastComponent_of_plain plain, characters,
      afterLastDot_append _ last, String.ofList_toList]
  | bare front plain inside =>
    rw [extension_of_folder front, extension, lastComponent_of_plain inside,
      afterLastDot_of_plain plain, String.ofList_nil]

/-- Every path is of one of the two kinds. -/
theorem exists_hasExtension (path : String) : ∃ ending, HasExtension path ending := by
  obtain ⟨folder, name, rfl, front, inside⟩ := exists_folder path
  by_cases dotted : '.' ∈ name.toList
  · obtain ⟨stem, rest, whole, last⟩ := exists_last dotted
    have parts : name = String.ofList stem ++ "." ++ String.ofList rest := by
      apply String.toList_injective
      simp [whole]
    subst parts
    simp only [String.toList_append, List.mem_append, not_or] at inside
    refine ⟨String.ofList rest, ?_⟩
    rw [← String.append_assoc, ← String.append_assoc]
    exact .dotted front inside.1.1 (by simpa using last) inside.2
  · exact ⟨"", .bare front dotted inside⟩

theorem extension_eq_iff : extension path = ending ↔ HasExtension path ending := by
  constructor
  · rintro rfl
    obtain ⟨ending, has⟩ := exists_hasExtension path
    rwa [has.extension_eq]
  · exact HasExtension.extension_eq

theorem HasExtension.plain (has : HasExtension path ending) :
    '.' ∉ ending.toList ∧ '/' ∉ ending.toList := by
  cases has with
  | dotted front name last inside => exact ⟨last, inside⟩
  | bare front plain inside => simp

theorem HasExtension.ends (has : HasExtension path ending) (nonempty : ending ≠ "") :
    ∃ before, path = before ++ "." ++ ending := by
  cases has with
  | @dotted folder stem _ front name last inside => exact ⟨folder ++ stem, rfl⟩
  | bare front plain inside => exact absurd rfl nonempty

theorem detect_of_folder {folder : String} (front : IsFolder folder) (name : String) :
    detect (folder ++ name) = detect name := by
  rw [detect, extension_of_folder front, detect]

/-- The extension of a path is told by its grammar, which covers every path: it is what follows the
last dot of the last component, with neither a dot nor a slash. The type depends on that component
alone. -/
theorem extension_exact (path : String) :
    (∀ ending, extension path = ending ↔ HasExtension path ending) ∧
      '.' ∉ (extension path).toList ∧ '/' ∉ (extension path).toList ∧
      (extension path ≠ "" → ∃ before, path = before ++ "." ++ extension path) ∧
      ∃ folder name, path = folder ++ name ∧ IsFolder folder ∧ '/' ∉ name.toList ∧
        ∀ other, IsFolder other → detect (other ++ name) = detect path := by
  have has : HasExtension path (extension path) := extension_eq_iff.mp rfl
  obtain ⟨folder, name, whole, front, inside⟩ := exists_folder path
  refine ⟨fun _ => extension_eq_iff, has.plain.1, has.plain.2, has.ends, folder, name, whole, front,
    inside, ?_⟩
  intro other instead
  rw [whole, detect_of_folder instead, detect_of_folder front]

/-- Of the dots before, within and at the end of a name only the last one in it counts. -/
theorem extension_exact_last_dot :
    HasExtension "v1.2/clip.tar.gz" "gz" ∧ extension "v1.2/clip.tar.gz" = "gz" ∧
      ∃ before, "v1.2/clip.tar.gz" = before ++ "." ++ "gz" := by
  have parts : "v1.2" ++ "/" ++ "clip.tar" ++ "." ++ "gz" = "v1.2/clip.tar.gz" := by decide
  have has : HasExtension "v1.2/clip.tar.gz" "gz" :=
    parts ▸ .dotted (.slashed "v1.2") (by decide) (by decide) (by decide)
  obtain ⟨exact, _, _, ends, _⟩ := extension_exact "v1.2/clip.tar.gz"
  have told : extension "v1.2/clip.tar.gz" = "gz" := (exact "gz").mpr has
  rw [told] at ends
  exact ⟨has, told, ends (by decide)⟩

/-- The type that is told from a key is told from the key with anything and a slash before it. -/
theorem detect_prefixed (before key : String) :
    detect (before ++ "/" ++ key) = detect key :=
  detect_of_folder (.slashed before) key

end ContentType

/-- The prefix of the settings does not change the type of an object. -/
theorem Settings.detect_fullKey (settings : Settings) (key : String) :
    ContentType.detect (settings.fullKey key) = ContentType.detect key := by
  unfold fullKey
  split
  · rfl
  · exact ContentType.detect_prefixed settings.pathPrefix key

end ObjectStorage
