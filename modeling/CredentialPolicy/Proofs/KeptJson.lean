import Mathlib.Data.List.Induction
import CredentialPolicy.Json

namespace CredentialPolicy

def HasDistinctNames {α : Type} (entries : List (String × α)) : Prop :=
  (entries.map (·.1)).Nodup

instance {α : Type} (entries : List (String × α)) : Decidable (HasDistinctNames entries) :=
  inferInstanceAs (Decidable (List.Nodup _))

theorem HasDistinctNames.perm {α : Type} {entries others : List (String × α)}
    (h : HasDistinctNames entries) (hperm : entries.Perm others) : HasDistinctNames others :=
  (hperm.map _).nodup_iff.1 h

theorem Ascending.hasDistinctNames {α : Type} {entries : List (String × α)}
    (h : Ascending entries) : HasDistinctNames entries :=
  List.pairwise_map.2 (h.imp fun hlt => Std.ne_of_lt hlt)

theorem Ascending.eq_of_perm {α : Type} {entries others : List (String × α)}
    (h : Ascending entries) (hother : Ascending others) (hperm : entries.Perm others) :
    entries = others :=
  hperm.eq_of_pairwise (fun _ _ _ _ hlt hgt => absurd hgt (String.lt_asymm hlt)) h hother

theorem insertEntry_perm {α : Type} {name : String} (value : α) {entries : List (String × α)}
    (h : name ∉ entries.map (·.1)) :
    (insertEntry name value entries).Perm ((name, value) :: entries) := by
  induction entries with
  | nil => exact .refl _
  | cons head rest ih =>
    rw [List.map_cons, List.mem_cons, not_or] at h
    rw [insertEntry, if_neg h.1]
    split
    · exact .refl _
    · exact ((ih h.2).cons head).trans (.swap _ _ _)

theorem insertEntry_map {α β : Type} (f : α → β) (name : String) (value : α)
    (entries : List (String × α)) :
    insertEntry name (f value) (entries.map fun e => (e.1, f e.2)) =
      (insertEntry name value entries).map fun e => (e.1, f e.2) := by
  induction entries with
  | nil => rfl
  | cons head rest ih =>
    rw [List.map_cons, insertEntry, insertEntry]
    split
    · rfl
    · split
      · rfl
      · rw [ih, List.map_cons]

namespace Members

variable {α β : Type}

theorem ofList_concat (entries : List (String × α)) (name : String) (value : α) :
    ofList (entries ++ [(name, value)]) = (ofList entries).insert name value := by
  simp [ofList]

theorem mem_ofList {entries : List (String × α)} {e : String × α}
    (h : e ∈ (ofList entries).entries) : e ∈ entries := by
  induction entries using List.reverseRecOn with
  | nil => exact h
  | append_singleton entries last ih =>
    rw [ofList_concat] at h
    rcases mem_insertEntry h with rfl | h
    · simp
    · exact List.mem_append_left _ (ih h)

theorem entries_ofList_perm {entries : List (String × α)} (h : HasDistinctNames entries) :
    (ofList entries).entries.Perm entries := by
  induction entries using List.reverseRecOn with
  | nil => exact .refl _
  | append_singleton entries last ih =>
    rw [HasDistinctNames, List.map_append, List.nodup_append] at h
    obtain ⟨hentries, -, hlast⟩ := h
    have hperm := ih hentries
    have hnew : last.1 ∉ (ofList entries).entries.map (·.1) := by
      intro hmem
      exact hlast _ ((hperm.map _).mem_iff.1 hmem) last.1 (by simp) rfl
    rw [ofList_concat]
    exact (insertEntry_perm last.2 hnew).trans
      ((hperm.cons last).trans (List.perm_append_singleton last entries).symm)

theorem ofList_eq_of_perm {entries others : List (String × α)} (h : HasDistinctNames entries)
    (hperm : entries.Perm others) : ofList entries = ofList others := by
  refine ext ((ofList entries).ascending.eq_of_perm (ofList others).ascending ?_)
  exact (entries_ofList_perm h).trans
    (hperm.trans (entries_ofList_perm (h.perm hperm)).symm)

theorem ofList_entries (m : Members α) : ofList m.entries = m := by
  refine ext ((ofList m.entries).ascending.eq_of_perm m.ascending ?_)
  exact entries_ofList_perm m.ascending.hasDistinctNames

theorem entries_ofList_map (f : α → β) (entries : List (String × α)) :
    (ofList (entries.map fun e => (e.1, f e.2))).entries =
      (ofList entries).entries.map fun e => (e.1, f e.2) := by
  induction entries using List.reverseRecOn with
  | nil => rfl
  | append_singleton entries last ih =>
    rw [List.map_append, List.map_singleton, ofList_concat, ofList_concat]
    exact (congrArg _ ih).trans (insertEntry_map f last.1 last.2 _)

end Members

namespace Json

@[elab_as_elim]
theorem induction {motive : Json → Prop} (null : motive .null) (bool : ∀ b, motive (.bool b))
    (int : ∀ n, motive (.int n)) (decimal : ∀ d, motive (.decimal d))
    (text : ∀ s, motive (.text s))
    (list : ∀ items, (∀ item ∈ items, motive item) → motive (.list items))
    (object : ∀ members, (∀ e ∈ members, motive e.2) → motive (.object members)) (json : Json) :
    motive json := by
  refine @Json.rec motive (fun items => ∀ item ∈ items, motive item)
    (fun members => ∀ e ∈ members, motive e.2) (fun e => motive e.2)
    null bool int decimal text list object ?_ ?_ ?_ ?_ ?_ json
  · intro item hitem
    cases hitem
  · intro item rest hitem hrest
    exact List.forall_mem_cons.2 ⟨hitem, hrest⟩
  · intro e he
    cases he
  · intro e rest he hrest
    exact List.forall_mem_cons.2 ⟨he, hrest⟩
  · intro name value hvalue
    exact hvalue

theorem canonicalItems_eq_map (items : List Json) : canonicalItems items = items.map canonical := by
  induction items with
  | nil => rfl
  | cons item rest ih => rw [canonicalItems, ih, List.map_cons]

theorem canonicalMembers_eq_map (members : List (String × Json)) :
    canonicalMembers members = members.map fun e => (e.1, e.2.canonical) := by
  induction members with
  | nil => rfl
  | cons head rest ih => rw [canonicalMembers, ih, List.map_cons]

theorem canonical_list (items : List Json) :
    (list items).canonical = list (items.map canonical) := by
  rw [canonical, canonicalItems_eq_map]

theorem canonicalMembers_perm {members others : List (String × Json)} (h : members.Perm others) :
    (canonicalMembers members).Perm (canonicalMembers others) := by
  rw [canonicalMembers_eq_map, canonicalMembers_eq_map]
  exact h.map _

theorem hasDistinctNames_canonicalMembers {members : List (String × Json)} :
    HasDistinctNames (canonicalMembers members) ↔ HasDistinctNames members := by
  rw [canonicalMembers_eq_map, HasDistinctNames, HasDistinctNames, List.map_map]
  rfl

theorem canonical_canonical (json : Json) : json.canonical.canonical = json.canonical := by
  induction json using Json.induction with
  | null | bool | int | decimal | text => rfl
  | list items ih =>
    rw [canonical_list, canonical_list, List.map_map]
    exact congrArg list (List.map_congr_left ih)
  | object members ih =>
    have hmembers : canonicalMembers (canonicalMembers members) = canonicalMembers members := by
      rw [canonicalMembers_eq_map, canonicalMembers_eq_map, List.map_map]
      exact List.map_congr_left fun e he => congrArg (e.1, ·) (ih e he)
    rw [canonical, canonical, canonicalMembers_eq_map (Members.ofList _).entries,
      ← Members.entries_ofList_map, Members.ofList_entries, ← canonicalMembers_eq_map, hmembers]

theorem canonicalMembers_canonicalMembers (members : List (String × Json)) :
    canonicalMembers (canonicalMembers members) = canonicalMembers members := by
  simp [canonicalMembers_eq_map, canonical_canonical]

mutual

def isDistinct : Json → Bool
  | .list items => isDistinctItems items
  | .object members => HasDistinctNames members && isDistinctMembers members
  | _ => true

def isDistinctItems : List Json → Bool
  | [] => true
  | item :: rest => item.isDistinct && isDistinctItems rest

def isDistinctMembers : List (String × Json) → Bool
  | [] => true
  | (_, value) :: rest => value.isDistinct && isDistinctMembers rest

end

theorem isDistinct_list (items : List Json) :
    (list items).isDistinct = true ↔ ∀ item ∈ items, item.isDistinct = true := by
  have hitems : isDistinctItems items = items.all isDistinct := by
    induction items with
    | nil => rfl
    | cons item rest ih => rw [isDistinctItems, ih, List.all_cons]
  rw [isDistinct, hitems, List.all_eq_true]

theorem isDistinct_object (members : List (String × Json)) :
    (object members).isDistinct = true ↔
      HasDistinctNames members ∧ ∀ e ∈ members, e.2.isDistinct = true := by
  have hmembers : isDistinctMembers members = members.all (·.2.isDistinct) := by
    induction members with
    | nil => rfl
    | cons head rest ih => rw [isDistinctMembers, ih, List.all_cons]
  rw [isDistinct, hmembers, Bool.and_eq_true, decide_eq_true_iff, List.all_eq_true]

end Json

end CredentialPolicy
