/-!
# Ordered entries

Keys with their values, in the order in which the keys came. Giving a key another value leaves it
in its place; a new key goes behind all others.
-/

namespace MapStyle.Entries

set_option autoImplicit false

variable {K V : Type} [BEq K]

/-- Gives a key a value: in its old place if the key is there, else at the end. -/
def put (key : K) (value : V) : List (K × V) → List (K × V)
  | [] => [(key, value)]
  | (other, old) :: rest =>
      if key == other then (key, value) :: rest else (other, old) :: put key value rest

/-- Entries in the order in which their keys came first, each with its last value. -/
def merge (entries : List (K × V)) : List (K × V) :=
  entries.foldl (fun merged entry => put entry.1 entry.2 merged) []

theorem lookup_put [LawfulBEq K] (key : K) (value : V) (entries : List (K × V)) :
    (put key value entries).lookup key = some value := by
  induction entries with
  | nil => simp [put]
  | cons entry rest ih =>
      obtain ⟨first, old⟩ := entry
      by_cases found : key = first
      · simp [put, found]
      · simp [put, List.lookup_cons, beq_false_of_ne found, ih]

theorem lookup_put_of_ne [LawfulBEq K] {key other : K} (value : V) (entries : List (K × V))
    (different : other ≠ key) : (put key value entries).lookup other = entries.lookup other := by
  induction entries with
  | nil => simp [put, List.lookup_cons, beq_false_of_ne different]
  | cons entry rest ih =>
      obtain ⟨first, old⟩ := entry
      by_cases found : key = first
      · have apart : other ≠ first := found ▸ different
        simp [put, found, List.lookup_cons, beq_false_of_ne apart]
      · simp [put, List.lookup_cons, beq_false_of_ne found, ih]

/-- A new key goes behind all others. -/
theorem put_of_lookup_none {key : K} (value : V) (entries : List (K × V))
    (absent : entries.lookup key = none) : put key value entries = entries ++ [(key, value)] := by
  induction entries with
  | nil => rfl
  | cons entry rest ih =>
      obtain ⟨first, old⟩ := entry
      rw [List.lookup_cons] at absent
      split at absent
      · contradiction
      · rename_i apart
        simp [put, apart, ih absent]

end MapStyle.Entries
