import CredentialPolicy.Text.Affix
import CredentialPolicy.Text.Case

namespace CredentialPolicy.Text

open CaseTable (ShiftedRun)

/-- The code points, apart from `n` itself, whose image may begin with `n`. -/
def origins (runs : List ShiftedRun) (expanded : List (Nat × List Nat)) (n : Nat) : List Nat :=
  (expanded.filter fun entry => entry.2.head? = some n).map (·.1) ++
    (runs.filter fun run => run.covers (n - run.shift).toNat).map fun run =>
      ((n : Int) - run.shift).toNat

theorem eq_toNat_of_ofNat {n : Nat} {c : Char} (h : Char.ofNat n = c) (hc : c.toNat ≠ 0) :
    n = c.toNat := by
  subst h
  by_cases hvalid : n.isValidChar
  · rw [Char.ofNat, dif_pos hvalid]
    rfl
  · rw [Char.ofNat, dif_neg hvalid] at hc
    exact absurd rfl hc

theorem mapCase_cases (runs : List ShiftedRun) (expanded : List (Nat × List Nat)) (c : Char) :
    (∃ image, (c.toNat, image) ∈ expanded ∧ mapCase runs expanded c = image.map Char.ofNat) ∨
      (∃ run ∈ runs, run.covers c.toNat = true ∧
        mapCase runs expanded c = [Char.ofNat (c.toNat + run.shift).toNat]) ∨
      mapCase runs expanded c = [c] := by
  unfold mapCase
  split
  · next image himage =>
    obtain ⟨before, after, rfl, -⟩ := List.lookup_eq_some_iff.1 himage
    exact .inl ⟨image, by simp, rfl⟩
  · split
    · next run hrun =>
      have hcovers : run.covers c.toNat = true := by simpa using List.find?_some hrun
      exact .inr (.inl ⟨run, List.mem_of_find?_eq_some hrun, hcovers, rfl⟩)
    · exact .inr (.inr rfl)

theorem mapCase_ne_nil {expanded : List (Nat × List Nat)}
    (hexpanded : ∀ entry ∈ expanded, entry.2 ≠ []) (runs : List ShiftedRun) (c : Char) :
    mapCase runs expanded c ≠ [] := by
  rcases mapCase_cases runs expanded c with ⟨image, hentry, h⟩ | ⟨run, -, -, h⟩ | h
  · rw [h]
    simpa using hexpanded _ hentry
  · rw [h]
    exact List.cons_ne_nil _ _
  · rw [h]
    exact List.cons_ne_nil _ _

theorem mapCase_eq_cons {runs : List ShiftedRun} {expanded : List (Nat × List Nat)} {c d : Char}
    {rest : List Char} (h : mapCase runs expanded c = d :: rest) (hd : d.toNat ≠ 0) :
    c = d ∨ c.toNat ∈ origins runs expanded d.toNat := by
  rcases mapCase_cases runs expanded c with
    ⟨image, hentry, himage⟩ | ⟨run, hrun, hcovers, himage⟩ | himage
  · obtain ⟨n, tail, rfl, hn, -⟩ := List.map_eq_cons_iff.1 (himage.symm.trans h)
    right
    refine List.mem_append_left _ (List.mem_map.2 ⟨_, List.mem_filter.2 ⟨hentry, ?_⟩, rfl⟩)
    simp [eq_toNat_of_ofNat hn hd]
  · have hshifted := eq_toNat_of_ofNat (List.cons.inj (himage.symm.trans h)).1 hd
    have horigin : ((d.toNat : Int) - run.shift).toNat = c.toNat := by omega
    right
    refine List.mem_append_right _ (List.mem_map.2 ⟨run, List.mem_filter.2 ⟨hrun, ?_⟩, horigin⟩)
    rw [horigin, hcovers]
  · exact .inl (List.cons.inj (himage.symm.trans h)).1

namespace CaseTable.ShiftedRun

def single (n : Nat) : ShiftedRun :=
  ⟨n, n, 1, 0⟩

def image (run : ShiftedRun) : ShiftedRun :=
  ⟨(run.first + run.shift).toNat, (run.last + run.shift).toNat, run.step, 0⟩

def hasParity (run : ShiftedRun) : Bool :=
  run.step = 2 || run.first = run.last

def isApart (run other : ShiftedRun) : Bool :=
  run.last.blt other.first || other.last.blt run.first ||
    run.hasParity && other.hasParity && (run.first + other.first) % 2 = 1

theorem covers_iff (run : ShiftedRun) (n : Nat) :
    run.covers n = true ↔ run.first ≤ n ∧ n ≤ run.last ∧ (n - run.first) % run.step = 0 := by
  simp [covers, and_assoc]

theorem covers_single (n : Nat) : (single n).covers n = true := by
  simp [covers_iff, single]

theorem mod_two_of_covers {run : ShiftedRun} (hparity : run.hasParity = true) {n : Nat}
    (h : run.covers n = true) : n % 2 = run.first % 2 := by
  obtain ⟨hfirst, hlast, hstep⟩ := (run.covers_iff n).1 h
  simp only [hasParity, Bool.or_eq_true, decide_eq_true_eq] at hparity
  rcases hparity with htwo | hsingle
  · rw [htwo] at hstep
    omega
  · omega

theorem not_covers_of_isApart {run other : ShiftedRun} (h : run.isApart other = true) {n : Nat}
    (hn : run.covers n = true) : other.covers n = false := by
  refine Bool.eq_false_iff.2 fun hother => ?_
  obtain ⟨hfirst, hlast, -⟩ := (run.covers_iff n).1 hn
  obtain ⟨hotherFirst, hotherLast, -⟩ := (other.covers_iff n).1 hother
  simp only [isApart, Bool.or_eq_true, Bool.and_eq_true, Nat.blt_eq, decide_eq_true_eq] at h
  rcases h with (hbelow | habove) | ⟨⟨hparity, hotherParity⟩, hodd⟩
  · omega
  · omega
  · have hmod := mod_two_of_covers hparity hn
    have hotherMod := mod_two_of_covers hotherParity hother
    omega

theorem covers_image {run : ShiftedRun} (hshift : 0 ≤ run.first + run.shift) {n : Nat}
    (h : run.covers n = true) : run.image.covers (n + run.shift).toNat = true := by
  obtain ⟨hfirst, hlast, hstep⟩ := (run.covers_iff n).1 h
  have hoffset : (n + run.shift).toNat - (run.first + run.shift).toNat = n - run.first := by omega
  refine (covers_iff _ _).2 ⟨?_, ?_, ?_⟩
  · simp only [image]
    omega
  · simp only [image]
    omega
  · rw [image, hoffset, hstep]

end CaseTable.ShiftedRun

def changed (runs : List ShiftedRun) (expanded : List (Nat × List Nat)) : List ShiftedRun :=
  runs ++ expanded.map fun entry => .single entry.1

def initials (runs : List ShiftedRun) (expanded : List (Nat × List Nat)) : List ShiftedRun :=
  runs.map .image ++ expanded.flatMap fun entry => entry.2.head?.toList.map .single

section

open CaseTable.ShiftedRun

variable {runs : List ShiftedRun} {expanded : List (Nat × List Nat)} {c d : Char}
  {rest : List Char}

theorem mapCase_of_unchanged (h : ∀ run ∈ changed runs expanded, run.covers c.toNat = false) :
    mapCase runs expanded c = [c] := by
  rcases mapCase_cases runs expanded c with ⟨image, hentry, -⟩ | ⟨run, hrun, hcovers, -⟩ | himage
  · have hchanged : single c.toNat ∈ changed runs expanded :=
      List.mem_append_right _ (List.mem_map.2 ⟨_, hentry, rfl⟩)
    exact absurd ((h _ hchanged).symm.trans (covers_single _)) Bool.false_ne_true
  · have hchanged : run ∈ changed runs expanded := List.mem_append_left _ hrun
    exact absurd ((h run hchanged).symm.trans hcovers) Bool.false_ne_true
  · exact himage

theorem mem_initials_of_mapCase (hshift : ∀ run ∈ runs, 0 ≤ run.first + run.shift)
    (h : mapCase runs expanded c = d :: rest) (hd : d.toNat ≠ 0) :
    mapCase runs expanded d = [d] ∨ ∃ run ∈ initials runs expanded, run.covers d.toNat = true := by
  rcases mapCase_cases runs expanded c with
    ⟨image, hentry, himage⟩ | ⟨run, hrun, hcovers, himage⟩ | himage
  · obtain ⟨n, tail, rfl, hn, -⟩ := List.map_eq_cons_iff.1 (himage.symm.trans h)
    have hinitial : single d.toNat ∈ initials runs expanded := by
      refine List.mem_append_right _ (List.mem_flatMap.2 ⟨_, hentry, ?_⟩)
      simp [eq_toNat_of_ofNat hn hd]
    exact .inr ⟨_, hinitial, covers_single _⟩
  · have hshifted := eq_toNat_of_ofNat (List.cons.inj (himage.symm.trans h)).1 hd
    have hinitial := covers_image (hshift run hrun) hcovers
    rw [hshifted] at hinitial
    exact .inr ⟨_, List.mem_append_left _ (List.mem_map_of_mem hrun), hinitial⟩
  · obtain ⟨rfl, -⟩ := List.cons.inj (himage.symm.trans h)
    exact .inl himage

theorem mapCase_initial (hshift : ∀ run ∈ runs, 0 ≤ run.first + run.shift)
    (hapart : (initials runs expanded).all (fun run =>
      (changed runs expanded).all run.isApart) = true)
    (h : mapCase runs expanded c = d :: rest) (hd : d.toNat ≠ 0) :
    mapCase runs expanded d = [d] := by
  rcases mem_initials_of_mapCase hshift h hd with hself | ⟨run, hrun, hcovers⟩
  · exact hself
  · refine mapCase_of_unchanged fun other hother => ?_
    exact not_covers_of_isApart
      (List.all_eq_true.1 (List.all_eq_true.1 hapart run hrun) other hother) hcovers

theorem not_mem_mapCase (hshift : ∀ run ∈ runs, 0 ≤ run.first + run.shift) (hd : d.toNat ≠ 0)
    (hexpanded : ∀ entry ∈ expanded, d.toNat ∉ entry.2)
    (hruns : ∀ run ∈ runs, run.image.covers d.toNat = false) (hne : c ≠ d) :
    d ∉ mapCase runs expanded c := by
  intro hmem
  rcases mapCase_cases runs expanded c with
    ⟨image, hentry, himage⟩ | ⟨run, hrun, hcovers, himage⟩ | himage
  · rw [himage] at hmem
    obtain ⟨n, hn, hnd⟩ := List.mem_map.1 hmem
    exact hexpanded _ hentry (eq_toNat_of_ofNat hnd hd ▸ hn)
  · rw [himage] at hmem
    have hshifted := eq_toNat_of_ofNat (List.mem_singleton.1 hmem).symm hd
    have himageCovers := covers_image (hshift run hrun) hcovers
    rw [hshifted, hruns run hrun] at himageCovers
    cases himageCovers
  · rw [himage] at hmem
    exact hne (List.mem_singleton.1 hmem).symm

end

theorem upperChar_ne_nil (c : Char) : upperChar c ≠ [] :=
  mapCase_ne_nil (by decide) _ _

theorem toUpper_shift : ∀ run ∈ CaseTable.toUpper, 0 ≤ run.first + run.shift := by
  decide +kernel

theorem upperChar_initial {c d : Char} {rest : List Char} (h : upperChar c = d :: rest) :
    upperChar d = [d] := by
  by_cases hd : d.toNat = 0
  · obtain rfl : d = '\x00' := Char.toNat_inj.1 hd
    decide
  · exact mapCase_initial toUpper_shift (by decide +kernel) h hd

theorem dot_not_mem_upperChar {c : Char} (h : c ≠ '.') : '.' ∉ upperChar c :=
  not_mem_mapCase toUpper_shift (by decide) (by decide +kernel) (by decide +kernel) h

theorem upperFirst_eq_nil_iff (text : List Char) : upperFirst text = [] ↔ text = [] := by
  cases text with
  | nil => simp [upperFirst]
  | cons c text => simp [upperFirst, upperChar_ne_nil]

theorem upperFirst_upperFirst (text : List Char) :
    upperFirst (upperFirst text) = upperFirst text := by
  cases text with
  | nil => rfl
  | cons c text =>
    obtain ⟨d, image, himage⟩ := List.exists_cons_of_ne_nil (upperChar_ne_nil c)
    rw [upperFirst, himage, List.cons_append, upperFirst, upperChar_initial himage]
    rfl

theorem dot_not_mem_upperFirst {text : List Char} (h : '.' ∉ text) : '.' ∉ upperFirst text := by
  cases text with
  | nil => exact h
  | cons c text =>
    obtain ⟨hc, htext⟩ := List.ne_and_not_mem_of_not_mem_cons h
    exact List.not_mem_append (dot_not_mem_upperChar hc.symm) htext

/-- A capital letter to which only itself and its small letter are mapped, unlike `S`, to which `ß`
and `ſ` are mapped as well. -/
structure IsPlainCapital (c : Char) : Prop where
  ne_zero : c.toNat ≠ 0
  origins_eq : origins CaseTable.toUpper CaseTable.toUpperExpanded c.toNat = [(lowerAscii c).toNat]
  upper_self : upperChar c = [c]
  upper_small : upperChar (lowerAscii c) = [c]

theorem upperFirst_eq_cons {text rest : List Char} {c : Char} (hc : IsPlainCapital c)
    (h : upperFirst text = c :: rest) : text = c :: rest ∨ text = lowerAscii c :: rest := by
  cases text with
  | nil => cases h
  | cons a text =>
    obtain ⟨d, image, himage⟩ := List.exists_cons_of_ne_nil (upperChar_ne_nil a)
    have hcons : d :: (image ++ text) = c :: rest := by rw [← h, upperFirst, himage]; rfl
    obtain ⟨rfl, -⟩ := List.cons.inj hcons
    rcases mapCase_eq_cons himage hc.ne_zero with rfl | ha
    · left
      rw [← h, upperFirst, hc.upper_self]
      rfl
    · right
      rw [hc.origins_eq, List.mem_singleton, Char.toNat_inj] at ha
      rw [ha, upperFirst, hc.upper_small] at h
      have htext : text = rest := (List.cons.inj h).2
      rw [ha, htext]

theorem mapCase_eq_cons_self {expanded : List (Nat × List Nat)}
    (hexpanded : ∀ entry ∈ expanded, entry.2.head?.map Char.ofNat ≠ some (Char.ofNat entry.1))
    {runs : List ShiftedRun} {c : Char} {rest : List Char}
    (h : mapCase runs expanded c = c :: rest) : rest = [] := by
  rcases mapCase_cases runs expanded c with ⟨image, hentry, himage⟩ | ⟨run, -, -, himage⟩ | himage
  · have hhead := hexpanded _ hentry
    rw [Char.ofNat_toNat, ← List.head?_map, ← himage, h] at hhead
    exact absurd rfl hhead
  · exact (List.cons.inj (himage.symm.trans h)).2.symm
  · exact (List.cons.inj (himage.symm.trans h)).2.symm

theorem lowerFrom_append_of_fixed {start : List Char} (h : ∀ c ∈ start, lowerChar c = [c])
    (before rest : List Char) :
    lowerFrom before (start ++ rest) = start ++ lowerFrom (start.reverse ++ before) rest := by
  induction start generalizing before with
  | nil => rfl
  | cons c start ih =>
    have hc : lowerChar c = [c] := h c List.mem_cons_self
    have hsigma : c ≠ 'Σ' := by
      rintro rfl
      exact absurd hc (by decide)
    rw [List.cons_append, lowerFrom, if_neg hsigma, hc,
      ih fun d hd => h d (List.mem_cons_of_mem _ hd)]
    simp

theorem fixed_of_lowerFrom_eq {start before rest after : List Char}
    (h : lowerFrom before (start ++ rest) = start ++ after) : ∀ c ∈ start, lowerChar c = [c] := by
  induction start generalizing before with
  | nil => simp
  | cons c start ih =>
    rw [List.cons_append, lowerFrom, List.cons_append] at h
    have hsigma : c ≠ 'Σ' := by
      rintro rfl
      rw [if_pos rfl] at h
      -- neither of its small forms is the capital itself
      split at h
      · exact absurd (List.cons.inj h).1 (by decide)
      · exact absurd (List.cons.inj h).1 (by decide)
    rw [if_neg hsigma] at h
    obtain ⟨d, image, himage⟩ : ∃ d image, lowerChar c = d :: image :=
      List.exists_cons_of_ne_nil (mapCase_ne_nil (by decide) _ _)
    rw [himage, List.cons_append] at h
    obtain ⟨rfl, htail⟩ := List.cons.inj h
    have hsingle : image = [] := mapCase_eq_cons_self (by decide) himage
    subst hsingle
    intro e he
    rcases List.mem_cons.1 he with rfl | he
    · exact himage
    · exact ih htail e he

theorem lower_eq_self_iff (text : String) :
    lower text = text ↔ ∀ c ∈ text.toList, lowerChar c = [c] := by
  constructor
  · intro h
    have hlist : lowerFrom [] text.toList = text.toList := by
      simpa [lower] using congrArg String.toList h
    have hstart : lowerFrom [] (text.toList ++ []) = text.toList ++ [] := by simpa using hlist
    exact fixed_of_lowerFrom_eq hstart
  · intro h
    have hlist := lowerFrom_append_of_fixed h [] []
    apply String.toList_inj.1
    simpa [lower, lowerFrom] using hlist

theorem begins_lower_append_iff (start rest : String) :
    begins start (lower (start ++ rest)) = true ↔ lower start = start := by
  rw [begins_iff, lower_eq_self_iff]
  constructor
  · rintro ⟨after, h⟩
    have hlist : lowerFrom [] (start.toList ++ rest.toList) = start.toList ++ after.toList := by
      simpa [lower] using congrArg String.toList h
    exact fixed_of_lowerFrom_eq hlist
  · intro h
    refine ⟨String.ofList (lowerFrom (start.toList.reverse ++ []) rest.toList), ?_⟩
    apply String.toList_inj.1
    simpa [lower] using lowerFrom_append_of_fixed h [] rest.toList

end CredentialPolicy.Text
