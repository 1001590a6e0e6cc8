import Mathlib.Algebra.BigOperators.Group.List.Basic
import Mathlib.Data.List.Nodup
import Mathlib.Data.List.Perm.Basic

/-!
# Maps in insertion order

* `OrderedMap` : entries under distinct keys, in the order of their first insertion; `get`, `set`;
* `collect` : one pass over a list that keeps an accumulator under each key; `get_collect` reads it back;
* `collect_perm` : up to the order of the entries it does not depend on the order of the list;
* `sum_collect` : a quantity that every item adds to its accumulator is, summed over the entries, that of the list.
-/

namespace ComplianceHub.Lib

structure OrderedMap (κ β : Type) where
  entries : List (κ × β)
  nodup : (entries.map Prod.fst).Nodup

variable {κ β α : Type} [DecidableEq κ]

/-- Replace the value under a key, or append the key. -/
def assign (key : κ) (value : β) : List (κ × β) → List (κ × β)
  | [] => [(key, value)]
  | entry :: rest => if entry.1 = key then (key, value) :: rest else entry :: assign key value rest

theorem keys_assign (key : κ) (value : β) (entries : List (κ × β)) : (assign key value entries).map Prod.fst =
    if key ∈ entries.map Prod.fst then entries.map Prod.fst else entries.map Prod.fst ++ [key] := by
  induction entries with
  | nil => rfl
  | cons entry rest ih =>
    unfold assign
    by_cases h : entry.1 = key
    · simp [h]
    · have hne : ¬ key = entry.1 := fun heq => h heq.symm
      rw [if_neg h, List.map_cons, ih, List.map_cons]
      simp only [List.mem_cons, hne, false_or]
      split_ifs <;> rfl

theorem mem_assign {key : κ} {value : β} {entries : List (κ × β)} (h : (entries.map Prod.fst).Nodup) {entry : κ × β} :
    entry ∈ assign key value entries ↔ entry = (key, value) ∨ entry ∈ entries ∧ entry.1 ≠ key := by
  induction entries with
  | nil => simp [assign]
  | cons first rest ih =>
    obtain ⟨hfirst, hrest⟩ := List.nodup_cons.mp h
    unfold assign
    by_cases heq : first.1 = key
    · rw [if_pos heq, List.mem_cons, List.mem_cons]
      have hne : ∀ e ∈ rest, e.1 ≠ key := fun e he hkey => hfirst (List.mem_map.mpr ⟨e, he, hkey.trans heq.symm⟩)
      constructor
      · rintro (rfl | he)
        · exact .inl rfl
        · exact .inr ⟨.inr he, hne _ he⟩
      · rintro (rfl | ⟨rfl | he, hkey⟩)
        · exact .inl rfl
        · exact absurd heq hkey
        · exact .inr he
    · rw [if_neg heq, List.mem_cons, List.mem_cons, ih hrest]
      constructor
      · rintro (rfl | rfl | ⟨he, hkey⟩)
        · exact .inr ⟨.inl rfl, heq⟩
        · exact .inl rfl
        · exact .inr ⟨.inr he, hkey⟩
      · rintro (rfl | ⟨rfl | he, hkey⟩)
        · exact .inr (.inl rfl)
        · exact .inl rfl
        · exact .inr (.inr ⟨he, hkey⟩)

theorem sum_assign {K : Type} [AddCommMonoid K] {g : β → K} {d : K} {key : κ} {value : β} {entries : List (κ × β)}
    (hold : ∀ b, (key, b) ∈ entries → g value = g b + d) (hnew : key ∉ entries.map Prod.fst → g value = d) :
    ((assign key value entries).map fun entry => g entry.2).sum = (entries.map fun entry => g entry.2).sum + d := by
  induction entries with
  | nil => simp [assign, hnew]
  | cons entry rest ih =>
    unfold assign
    by_cases h : entry.1 = key
    · have hentry : (key, entry.2) = entry := by rw [← h]
      rw [if_pos h, List.map_cons, List.sum_cons, List.map_cons, List.sum_cons,
        hold entry.2 (hentry ▸ List.mem_cons_self), add_right_comm]
    · rw [if_neg h, List.map_cons, List.sum_cons, List.map_cons, List.sum_cons, ih, add_assoc]
      · exact fun b hb => hold b (List.mem_cons_of_mem _ hb)
      · intro hkey
        refine hnew fun hmem => ?_
        rcases List.mem_cons.mp hmem with heq | hmem
        · exact h heq.symm
        · exact hkey hmem

namespace OrderedMap

def empty : OrderedMap κ β := ⟨[], List.nodup_nil⟩

def get (m : OrderedMap κ β) (key : κ) : Option β := (m.entries.find? fun entry => entry.1 = key).map Prod.snd

def set (m : OrderedMap κ β) (key : κ) (value : β) : OrderedMap κ β where
  entries := assign key value m.entries
  nodup := by
    rw [keys_assign]
    split_ifs with h
    · exact m.nodup
    · refine List.nodup_append.mpr ⟨m.nodup, List.nodup_singleton key, ?_⟩
      rintro a ha b hb rfl
      exact h (List.mem_singleton.mp hb ▸ ha)

variable {m m' : OrderedMap κ β} {key key' : κ} {value : β}

theorem mem_entries_iff : (key, value) ∈ m.entries ↔ m.get key = some value := by
  unfold get
  constructor
  · intro h
    cases hfind : m.entries.find? fun entry => entry.1 = key with
    | none => simpa using List.find?_eq_none.mp hfind _ h
    | some entry =>
      have hkey : entry.1 = key := by simpa using List.find?_some hfind
      have heq := List.inj_on_of_nodup_map m.nodup (List.mem_of_find?_eq_some hfind) h hkey
      rw [heq]
      rfl
  · intro h
    obtain ⟨entry, hfind, rfl⟩ := Option.map_eq_some_iff.mp h
    have hkey : entry.1 = key := by simpa using List.find?_some hfind
    rw [← hkey]
    exact List.mem_of_find?_eq_some hfind

theorem get_set : (m.set key value).get key' = if key' = key then some value else m.get key' := by
  refine Option.ext fun v => ?_
  rw [← mem_entries_iff (m := m.set key value)]
  change (key', v) ∈ assign key value m.entries ↔ _
  rw [mem_assign m.nodup]
  split_ifs with h
  · simp [h, eq_comm]
  · simp [h, mem_entries_iff]

/-- Replace the values under some keys, each by what it was. -/
theorem get_foldl_set (u : κ → β → β) (d : β) (k : κ) : ∀ (keys : List κ) (m : OrderedMap κ β), keys.Nodup →
    (keys.foldl (fun m k => m.set k (u k ((m.get k).getD d))) m).get k =
      if k ∈ keys then some (u k ((m.get k).getD d)) else m.get k
  | [], _, _ => by simp
  | key :: keys, m, h => by
    obtain ⟨hkey, hkeys⟩ := List.nodup_cons.mp h
    rw [List.foldl_cons, get_foldl_set u d k keys _ hkeys, get_set]
    by_cases hk : k = key
    · subst hk
      rw [if_neg hkey, if_pos rfl, if_pos List.mem_cons_self]
    · simp [hk]

theorem perm_of_get (h : ∀ key, m.get key = m'.get key) : m.entries.Perm m'.entries := by
  refine (List.perm_ext_iff_of_nodup (List.Nodup.of_map _ m.nodup) (List.Nodup.of_map _ m'.nodup)).mpr ?_
  rintro ⟨key, value⟩
  rw [mem_entries_iff, mem_entries_iff, h]

/-! ## Accumulators -/

section
variable (key : α → κ) (init : α → β) (f : β → α → β)

/-- Add one item to the accumulator under its key. -/
def add (m : OrderedMap κ β) (x : α) : OrderedMap κ β := m.set (key x) (f ((m.get (key x)).getD (init x)) x)

def collect (xs : List α) : OrderedMap κ β := xs.foldl (add key init f) empty

end

variable {key : α → κ} {init : α → β} {f : β → α → β}

theorem get_foldl_add (k : κ) : ∀ (xs : List α) (m : OrderedMap κ β), (xs.foldl (add key init f) m).get k =
    (xs.filter fun x => key x = k).foldl (fun o x => some (f (o.getD (init x)) x)) (m.get k)
  | [], _ => rfl
  | x :: xs, m => by
    rw [List.foldl_cons, get_foldl_add k xs, add, get_set, List.filter_cons]
    by_cases h : key x = k
    · rw [if_pos h.symm, if_pos (decide_eq_true h), List.foldl_cons, h]
    · rw [if_neg fun heq => h heq.symm, if_neg (by simpa using h)]

/-- Under a key stands the accumulator of the items of that key. -/
theorem get_collect (xs : List α) (k : κ) : (collect key init f xs).get k =
    (xs.filter fun x => key x = k).foldl (fun o x => some (f (o.getD (init x)) x)) none :=
  get_foldl_add k xs empty

theorem isSome_foldl_add : ∀ (xs : List α) (o : Option β),
    (xs.foldl (fun o x => some (f (o.getD (init x)) x)) o).isSome = (o.isSome || !xs.isEmpty)
  | [], o => by simp
  | x :: xs, o => by
    rw [List.foldl_cons, isSome_foldl_add xs]
    simp

/-- The keys are those of the items. -/
theorem mem_keys_collect {xs : List α} {k : κ} :
    k ∈ (collect key init f xs).entries.map Prod.fst ↔ ∃ x ∈ xs, key x = k := by
  have hsome : k ∈ (collect key init f xs).entries.map Prod.fst ↔ ((collect key init f xs).get k).isSome := by
    rw [Option.isSome_iff_exists]
    simp [← mem_entries_iff]
  rw [hsome, get_collect, isSome_foldl_add]
  simp [List.filter_eq_nil_iff]

/-- Where the items of one key may be added in any order, so may all. -/
theorem collect_perm {xs ys : List α} (h : xs.Perm ys)
    (hcomm : ∀ x ∈ xs, ∀ y ∈ xs, key x = key y → init x = init y ∧ ∀ b, f (f b x) y = f (f b y) x) :
    (collect key init f xs).entries.Perm (collect key init f ys).entries := by
  refine perm_of_get fun k => ?_
  rw [get_collect, get_collect]
  refine (h.filter _).foldl_eq' (fun x hx y hy o => ?_) none
  obtain ⟨hx, hkx⟩ := List.mem_filter.mp hx
  obtain ⟨hy, hky⟩ := List.mem_filter.mp hy
  obtain ⟨hinit, hadd⟩ := hcomm x hx y hy ((of_decide_eq_true hkx).trans (of_decide_eq_true hky).symm)
  rw [Option.getD_some, Option.getD_some, hinit, hadd]

/-- What every item establishes and keeps under its key holds of every accumulator. -/
theorem collect_always_keyed {I : κ → β → Prop} {xs : List α} (hnew : ∀ x ∈ xs, I (key x) (f (init x) x))
    (hadd : ∀ b, ∀ x ∈ xs, I (key x) b → I (key x) (f b x)) {entry : κ × β} (h : entry ∈ (collect key init f xs).entries) :
    I entry.1 entry.2 := by
  have hfold : ∀ (ys : List α), (∀ y ∈ ys, y ∈ xs ∧ key y = entry.1) → ∀ (o : Option β), (∀ b, o = some b → I entry.1 b) →
      ∀ b, ys.foldl (fun o x => some (f (o.getD (init x)) x)) o = some b → I entry.1 b := by
    intro ys
    induction ys with
    | nil => exact fun _ o ho b hb => ho b hb
    | cons y ys ih =>
      intro hys o ho b hb
      obtain ⟨hy, hkey⟩ := hys y List.mem_cons_self
      refine ih (fun z hz => hys z (List.mem_cons_of_mem _ hz)) _ (fun c hc => ?_) b hb
      cases hc
      cases o with
      | none => exact hkey ▸ hnew y hy
      | some c => exact hkey ▸ hadd c y hy (hkey ▸ ho c rfl)
  have hget := mem_entries_iff.mp (show (entry.1, entry.2) ∈ (collect key init f xs).entries from h)
  rw [get_collect] at hget
  refine hfold _ (fun y hy => ?_) none (fun b hb => by cases hb) _ hget
  obtain ⟨hy, hkey⟩ := List.mem_filter.mp hy
  exact ⟨hy, of_decide_eq_true hkey⟩

theorem collect_always {I : β → Prop} {xs : List α} (hnew : ∀ x ∈ xs, I (f (init x) x))
    (hadd : ∀ b, ∀ x ∈ xs, I b → I (f b x)) {entry : κ × β} (h : entry ∈ (collect key init f xs).entries) : I entry.2 :=
  collect_always_keyed (I := fun _ => I) hnew hadd h

theorem sum_add {K : Type} [AddCommMonoid K] {g : β → K} {d : K} {x : α} (hinit : g (init x) = 0)
    (hf : ∀ b, g (f b x) = g b + d) (m : OrderedMap κ β) :
    ((add key init f m x).entries.map fun entry => g entry.2).sum = (m.entries.map fun entry => g entry.2).sum + d := by
  refine sum_assign (fun b hb => ?_) fun hkey => ?_
  · rw [mem_entries_iff.mp hb, Option.getD_some, hf]
  · have hnone : m.get (key x) = none := by
      rw [Option.eq_none_iff_forall_not_mem]
      exact fun b hb => hkey (List.mem_map.mpr ⟨_, mem_entries_iff.mpr hb, rfl⟩)
    rw [hnone, Option.getD_none, hf, hinit, zero_add]

/-- What each item adds to its accumulator is counted once over all of them. -/
theorem sum_collect {K : Type} [AddCommMonoid K] (g : β → K) (w : α → K) (hinit : ∀ x, g (init x) = 0)
    (hf : ∀ b x, g (f b x) = g b + w x) (xs : List α) :
    ((collect key init f xs).entries.map fun entry => g entry.2).sum = (xs.map w).sum := by
  have hall : ∀ m : OrderedMap κ β, ((xs.foldl (add key init f) m).entries.map fun entry => g entry.2).sum =
      (m.entries.map fun entry => g entry.2).sum + (xs.map w).sum := by
    induction xs with
    | nil => simp
    | cons x xs ih =>
      intro m
      rw [List.foldl_cons, ih, sum_add (hinit x) (hf · x), List.map_cons, List.sum_cons, add_assoc]
  rw [collect, hall]
  exact zero_add _

end OrderedMap

end ComplianceHub.Lib
