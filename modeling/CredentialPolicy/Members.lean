/-!
Finite maps from names to values, kept in ascending order of the names. Two maps with the same
entries are equal, so the order in which entries were added leaves no trace.
-/

namespace CredentialPolicy

/-- Puts an entry in its place; an older entry of that name gives way. -/
def insertEntry {α : Type} (name : String) (value : α) : List (String × α) → List (String × α)
  | [] => [(name, value)]
  | (n, v) :: rest =>
    if name = n then (name, value) :: rest
    else if name < n then (name, value) :: (n, v) :: rest
    else (n, v) :: insertEntry name value rest

theorem mem_insertEntry {α : Type} {name : String} {value : α} {entries : List (String × α)}
    {e : String × α} (h : e ∈ insertEntry name value entries) :
    e = (name, value) ∨ e ∈ entries := by
  induction entries with
  | nil => simpa [insertEntry] using h
  | cons head rest ih =>
    simp only [insertEntry] at h
    split at h
    · rcases List.mem_cons.1 h with h | h <;> simp [h]
    · split at h
      · rcases List.mem_cons.1 h with h | h <;> simp_all
      · rcases List.mem_cons.1 h with h | h
        · simp [h]
        · rcases ih h with h | h <;> simp [h]

def Ascending {α : Type} (entries : List (String × α)) : Prop :=
  entries.Pairwise fun a b => a.1 < b.1

theorem ascending_insertEntry {α : Type} (name : String) (value : α) {entries : List (String × α)}
    (h : Ascending entries) : Ascending (insertEntry name value entries) := by
  induction entries with
  | nil => simp [insertEntry, Ascending]
  | cons head rest ih =>
    obtain ⟨first, ordered⟩ := List.pairwise_cons.1 h
    simp only [insertEntry]
    split
    · next heq => exact List.pairwise_cons.2 ⟨fun e he => heq ▸ first e he, ordered⟩
    · split
      · next hlt =>
        refine List.pairwise_cons.2 ⟨fun e he => ?_, h⟩
        rcases List.mem_cons.1 he with rfl | he
        · exact hlt
        · exact String.lt_trans hlt (first e he)
      · next hne hnlt =>
        refine List.pairwise_cons.2 ⟨fun e he => ?_, ih ordered⟩
        rcases mem_insertEntry he with rfl | he
        · exact Std.lt_of_le_of_ne (String.not_lt.1 hnlt) (fun h => hne h.symm)
        · exact first e he

structure Members (α : Type) where
  entries : List (String × α)
  ascending : Ascending entries

namespace Members

variable {α : Type}

def empty : Members α := ⟨[], List.Pairwise.nil⟩

def insert (m : Members α) (name : String) (value : α) : Members α :=
  ⟨insertEntry name value m.entries, ascending_insertEntry name value m.ascending⟩

def ofList (entries : List (String × α)) : Members α :=
  entries.foldl (fun m e => m.insert e.1 e.2) empty

def get? (m : Members α) (name : String) : Option α :=
  m.entries.lookup name

theorem lookup_cons_ite {α : Type} (key name : String) (value : α) (rest : List (String × α)) :
    ((name, value) :: rest).lookup key = if key = name then some value else rest.lookup key := by
  by_cases h : key = name
  · simp [h]
  · simp [List.lookup_cons, h, beq_eq_false_iff_ne.2 h]

theorem ext {a b : Members α} (h : a.entries = b.entries) : a = b := by
  cases a; cases b; simp_all

end Members

end CredentialPolicy
