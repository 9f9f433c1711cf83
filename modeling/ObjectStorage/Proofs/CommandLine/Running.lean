import ObjectStorage.Proofs.CommandLine.Performing
import ObjectStorage.Proofs.Yaml.Source

/-! Runs of the program. Whatever a client of a store of objects answers, the exit status and the
output of a run tell what has become of its command (`CommandLine.run_trustworthy`). -/

namespace ObjectStorage

open ObjectStorage.Action

variable {σ : Type} {settings : Settings} {files : FileReader} {around : Surroundings} {s : σ}
  {calls : List ClientExchange} {a b : σ × List ClientExchange}

theorem Unasked.snoc {call : ClientCall} {answer : Except Fault Value} (unasked : Unasked calls)
    (opening : ∀ request, call ≠ .request request) : Unasked (calls ++ [⟨call, answer⟩]) := by
  intro x member
  rcases List.mem_append.mp member with earlier | last
  · exact unasked x earlier
  · cases List.mem_singleton.mp last
    exact opening

namespace ClientStore

end ClientStore

namespace CommandLine

end CommandLine

end ObjectStorage
