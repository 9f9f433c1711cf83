/-! A first-in, first-out queue of bytes: bytes of any number join at the end, and the front is read
or removed by its size. -/

namespace ObjectStorage

/-- The bytes that wait, oldest first. -/
structure ByteQueue where
  bytes : ByteArray
  deriving Inhabited

/-- More bytes were asked for than wait in the queue. -/
structure Shortage where
  requested : Int
  available : Nat
  deriving DecidableEq, Repr

namespace ByteQueue

def empty : ByteQueue := ⟨.empty⟩

def size (q : ByteQueue) : Nat := q.bytes.size

/-- The queue as a list. -/
def toList (q : ByteQueue) : List UInt8 := q.bytes.data.toList

def append (q : ByteQueue) (data : ByteArray) : ByteQueue := ⟨q.bytes ++ data⟩

/-- How many bytes of `available` a front of an integer size has: a negative size says how many
bytes at the end stay out of it. -/
def frontSize (size : Int) (available : Nat) : Nat :=
  if size < 0 then available - size.natAbs else min size.toNat available

/-- The number of bytes of a front that the queue can give. -/
def measure (q : ByteQueue) (size : Int) : Except Shortage Nat :=
  if (q.size : Int) < size then .error ⟨size, q.size⟩ else .ok (frontSize size q.size)

/-- The front, which stays in the queue. -/
def peek (q : ByteQueue) (size : Int) : Except Shortage ByteArray :=
  (q.measure size).map fun n => q.bytes.extract 0 n

/-- The queue without its front. -/
def discard (q : ByteQueue) (size : Int) : Except Shortage ByteQueue :=
  (q.measure size).map fun n => ⟨q.bytes.extract n q.bytes.size⟩

/-- The front and the queue without it. -/
def take (q : ByteQueue) (size : Int) : Except Shortage (ByteArray × ByteQueue) := do
  pure (← q.peek size, ← q.discard size)

@[simp] theorem toList_append (q : ByteQueue) (data : ByteArray) :
    (q.append data).toList = q.toList ++ data.data.toList := by
  simp [toList, append]

theorem measure_of_le {q : ByteQueue} {n : Nat} (enough : n ≤ q.size) : q.measure n = .ok n := by
  have within : ¬ (q.size : Int) < n := by omega
  have front : frontSize n q.size = n := by
    unfold frontSize
    split <;> omega
  simp [measure, within, front]

theorem peek_of_le {q : ByteQueue} {n : Nat} (enough : n ≤ q.size) :
    q.peek n = .ok (q.bytes.extract 0 n) := by
  simp [peek, measure_of_le enough, Except.map]

theorem discard_of_le {q : ByteQueue} {n : Nat} (enough : n ≤ q.size) :
    q.discard n = .ok ⟨q.bytes.extract n q.bytes.size⟩ := by
  simp [discard, measure_of_le enough, Except.map]

theorem frontSize_le (size : Int) (available : Nat) : frontSize size available ≤ available := by
  unfold frontSize
  split <;> omega

end ByteQueue

end ObjectStorage
