/-
**Ordered collections are determined by what they hold.**

Sets with the same elements are equal, and so are maps that find the same value for every key.  A set
built from a list therefore does not depend on the order or the repetitions of the list, and a map
built from entries depends only on the last entry of each key.

Main results:

* `StringSet.ofList_congr` — lists with the same elements give the same set;
* `StringMap.ext_get?` — **maps with the same values are equal**;
* `StringMap.get?_ofList`, `StringMap.get?_ofList_eq_some_iff` — a map of entries finds the last
  entry of a key;
* `StringMap.mem_keys_ofList` — the keys of a map of entries are those that are given;
* `StringMap.ofList_toList`, `StringMap.ofList_perm` — the map of a map's entries, and entries that
  give the same map in any order;
* `PathSet.spellings_ofList`, `PathSet.exists_perm_spellings_ne` — **the spellings of a set of paths
  depend on the order of the paths exactly if a path is spelled twice**.
-/

import Mathlib.Data.List.Induction
import Mathlib.Data.List.Nodup
import Compliance.Path
import Compliance.StringMap

set_option relaxedAutoImplicit false
set_option autoImplicit false

namespace Compliance

/-! ### Lists -/

/-- Sorted strings are in order. -/
theorem pairwise_mergeSort_le (xs : List String) : (xs.mergeSort (· ≤ ·)).Pairwise (· ≤ ·) := by
  have sorted : (xs.mergeSort (· ≤ ·)).Pairwise fun a b => decide (a ≤ b) = true := by
    refine List.pairwise_mergeSort ?_ ?_ _
    · intro a b d hab hbd
      exact decide_eq_true (String.le_trans (of_decide_eq_true hab) (of_decide_eq_true hbd))
    · intro a b
      rcases String.le_total a b with hab | hba
      · rw [decide_eq_true hab, Bool.true_or]
      · rw [decide_eq_true hba, Bool.or_true]
  exact sorted.imp of_decide_eq_true

/-- Lists in order with the same strings, equally often, are equal. -/
theorem eq_of_perm_of_le {xs ys : List String} (perm : xs.Perm ys) (hx : xs.Pairwise (· ≤ ·))
    (hy : ys.Pairwise (· ≤ ·)) : xs = ys := by
  refine List.Perm.eq_of_pairwise ?_ hx hy perm
  intro a b _ _ hab hba
  exact String.le_antisymm hab hba

/-! ### Sets -/

namespace StringSet

/-- Lists with the same elements give the same set. -/
theorem ofList_congr {xs ys : List String} (h : ∀ x, x ∈ xs ↔ x ∈ ys) :
    ofList xs = ofList ys := by
  refine ext_mem fun x => ?_
  rw [mem_ofList, mem_ofList]
  exact h x

/-- Sets with the same elements in order are equal. -/
theorem ext_toList {s t : StringSet} (h : s.toList = t.toList) : s = t := by
  cases s
  cases t
  congr

@[simp] theorem ofList_toList (s : StringSet) : ofList s.toList = s := by
  refine ext_mem fun x => ?_
  rw [mem_ofList]
  exact Iff.rfl

theorem inter_comm (s t : StringSet) : s.inter t = t.inter s := by
  refine ext_mem fun x => ?_
  rw [mem_inter, mem_inter, and_comm]

/-- What a set does not share with another one, it lacks there. -/
theorem diff_inter (s t : StringSet) : s.diff (s.inter t) = s.diff t := by
  refine ext_mem fun x => ?_
  rw [mem_diff, mem_diff, mem_inter]
  constructor
  · rintro ⟨hs, apart⟩
    exact ⟨hs, fun ht => apart ⟨hs, ht⟩⟩
  · rintro ⟨hs, apart⟩
    exact ⟨hs, fun h => apart h.2⟩

theorem isEmpty_iff {s : StringSet} : s.isEmpty = true ↔ ∀ x, x ∉ s := by
  rw [isEmpty, List.isEmpty_iff, List.eq_nil_iff_forall_not_mem]
  exact Iff.rfl

end StringSet

/-! ### Maps -/

namespace StringMap

variable {α β : Type}

/-- Below the keys of an ascending list nothing is found. -/
theorem lookup_eq_none_of_lt {key : String} {es : List (String × α)}
    (h : ∀ e ∈ es, key < e.1) : es.lookup key = none := by
  induction es with
  | nil => rfl
  | cons e es ih =>
      have below : key < e.1 := h e List.mem_cons_self
      have apart : (key == e.1) = false :=
        beq_false_of_ne fun same => String.lt_irrefl _ (same ▸ below)
      rw [List.lookup_cons, apart]
      exact ih fun d hd => h d (List.mem_cons_of_mem _ hd)

theorem lookup_cons_self (key : String) (value : α) (es : List (String × α)) :
    List.lookup key ((key, value) :: es) = some value := by
  rw [List.lookup_cons]
  simp

/-- The lesser of two first keys is missing from the other list. -/
theorem not_lt_of_lookup_eq {key key' : String} {value value' : α} {es ds : List (String × α)}
    (found : List.lookup key ((key, value) :: es) = List.lookup key ((key', value') :: ds))
    (above : ∀ d ∈ ds, key' < d.1) : ¬ key < key' := by
  intro lt
  rw [lookup_cons_self, lookup_eq_none_of_lt] at found
  · cases found
  · intro d hd
    rcases List.mem_cons.1 hd with rfl | hd
    · exact lt
    · exact String.lt_trans lt (above d hd)

/-- An ascending list is determined by what is found in it. -/
theorem eq_of_lookup_eq {es ds : List (String × α)} (he : es.Pairwise (·.1 < ·.1))
    (hd : ds.Pairwise (·.1 < ·.1)) (h : ∀ key, es.lookup key = ds.lookup key) : es = ds := by
  induction es generalizing ds with
  | nil =>
      cases ds with
      | nil => rfl
      | cons d ds =>
          have found := h d.1
          rw [lookup_cons_self] at found
          cases found
  | cons e es ih =>
      cases ds with
      | nil =>
          have found := h e.1
          rw [lookup_cons_self] at found
          cases found
      | cons d ds =>
          obtain ⟨key, value⟩ := e
          obtain ⟨key', value'⟩ := d
          obtain ⟨above, restE⟩ := List.pairwise_cons.1 he
          obtain ⟨above', restD⟩ := List.pairwise_cons.1 hd
          have same : key = key' := by
            refine String.le_antisymm (String.not_lt.1 ?_) (String.not_lt.1 ?_)
            · exact not_lt_of_lookup_eq (h key').symm above
            · exact not_lt_of_lookup_eq (h key) above'
          subst same
          have sameValue : value = value' := by
            have found := h key
            rw [lookup_cons_self, lookup_cons_self] at found
            exact Option.some.inj found
          subst sameValue
          congr 1
          -- the common first key is found in neither of the other entries
          refine ih restE restD fun k => ?_
          by_cases hk : k = key
          · subst hk
            rw [lookup_eq_none_of_lt above, lookup_eq_none_of_lt above']
          · have found := h k
            have apart : (k == key) = false := beq_false_of_ne hk
            rwa [List.lookup_cons, List.lookup_cons, apart] at found

/-- Maps with the same entries in order are equal. -/
theorem ext_toList {m n : StringMap α} (h : m.toList = n.toList) : m = n := by
  cases m
  cases n
  congr

/-- **Maps that find the same value for every key are equal.** -/
theorem ext_get? {m n : StringMap α} (h : ∀ key, m.get? key = n.get? key) : m = n := by
  obtain ⟨es, he⟩ := m
  obtain ⟨ds, hd⟩ := n
  cases eq_of_lookup_eq he hd h
  rfl

/-- A map of entries finds the last entry of a key. -/
theorem get?_ofList (es : List (String × α)) (key : String) :
    (ofList es).get? key = es.reverse.lookup key := by
  induction es using List.reverseRecOn with
  | nil => rfl
  | append_singleton es e ih =>
      rw [ofList, List.foldl_append, ← ofList, List.reverse_append]
      show ((ofList es).insert e.1 e.2).get? key = List.lookup key (e :: es.reverse)
      by_cases hk : key = e.1
      · subst hk
        rw [get?_insert_self, lookup_cons_self]
      · have apart : (key == e.1) = false := beq_false_of_ne hk
        rw [get?_insert_of_ne hk, ih, List.lookup_cons, apart]

/-- If no key is given twice, every entry is the one that is found. -/
theorem lookup_eq_some_iff {es : List (String × α)} (once : (es.map (·.1)).Nodup) {key : String}
    {value : α} : es.lookup key = some value ↔ (key, value) ∈ es := by
  induction es with
  | nil => simp
  | cons e es ih =>
      rw [List.map_cons, List.nodup_cons] at once
      obtain ⟨new, once⟩ := once
      obtain ⟨k, v⟩ := e
      by_cases hk : key = k
      · subst hk
        rw [lookup_cons_self, List.mem_cons]
        constructor
        · rintro ⟨⟩
          exact .inl rfl
        · rintro (same | found)
          · rw [(Prod.mk.inj same).2]
          · exact absurd (List.mem_map.2 ⟨(key, value), found, rfl⟩) new
      · have apart : (key == k) = false := beq_false_of_ne hk
        rw [List.lookup_cons, apart, ih once, List.mem_cons]
        simp [hk]

theorem nodup_keys (m : StringMap α) : m.keys.Nodup := by
  rw [keys, List.Nodup, List.pairwise_map]
  refine m.ascending.imp fun {e d} lt same => ?_
  rw [same] at lt
  exact String.lt_irrefl _ lt

/-- Without repeated keys the order of entries does not matter. -/
theorem lookup_congr {es ds : List (String × α)} (once : (es.map (·.1)).Nodup)
    (once' : (ds.map (·.1)).Nodup) (h : ∀ e, e ∈ es ↔ e ∈ ds) (key : String) :
    es.lookup key = ds.lookup key := by
  refine Option.ext fun value => ?_
  rw [lookup_eq_some_iff once, lookup_eq_some_iff once']
  exact h (key, value)

theorem forall_bne_iff {es : List (String × α)} {key : String} :
    (∀ e ∈ es, (key != e.1) = true) ↔ key ∉ es.map (·.1) := by
  rw [List.mem_map]
  constructor
  · rintro apart ⟨e, he, rfl⟩
    simpa using apart e he
  · intro new e he
    exact bne_iff_ne.2 fun same => new ⟨e, he, same.symm⟩

theorem lookup_eq_none_iff {es : List (String × α)} {key : String} :
    es.lookup key = none ↔ key ∉ es.map (·.1) :=
  List.lookup_eq_none_iff.trans forall_bne_iff

/-- What a map of entries finds is the value of an entry after which its key is not given again. -/
theorem get?_ofList_eq_some_iff {es : List (String × α)} {key : String} {value : α} :
    (ofList es).get? key = some value ↔
      ∃ front back, es = front ++ (key, value) :: back ∧ key ∉ back.map (·.1) := by
  rw [get?_ofList, List.lookup_eq_some_iff]
  constructor
  · rintro ⟨after, before, split, apart⟩
    refine ⟨before.reverse, after.reverse, ?_, ?_⟩
    · rw [← List.reverse_reverse es, split]
      simp
    · rw [List.map_reverse, List.mem_reverse]
      exact forall_bne_iff.1 apart
  · rintro ⟨front, back, rfl, new⟩
    refine ⟨back.reverse, front.reverse, by simp, forall_bne_iff.2 ?_⟩
    rwa [List.map_reverse, List.mem_reverse]

/-- The keys of a map of entries are those that are given. -/
theorem mem_keys_ofList {es : List (String × α)} {key : String} :
    key ∈ (ofList es).keys ↔ key ∈ es.map (·.1) := by
  have found := get?_ofList es key
  rw [keys, ← not_iff_not, ← lookup_eq_none_iff, ← get?, found, lookup_eq_none_iff, List.map_reverse,
    List.mem_reverse]

/-- Without repeated keys a map of entries finds the only entry of a key. -/
theorem get?_ofList_of_nodup {es : List (String × α)} (once : (es.map (·.1)).Nodup)
    (key : String) : (ofList es).get? key = es.lookup key := by
  rw [get?_ofList]
  refine lookup_congr ?_ once (fun e => List.mem_reverse) key
  rw [List.map_reverse, List.nodup_reverse]
  exact once

@[simp] theorem ofList_toList (m : StringMap α) : ofList m.toList = m :=
  ext_get? fun key => get?_ofList_of_nodup m.nodup_keys key

/-- Without repeated keys the order of entries does not matter for their map. -/
theorem ofList_perm {es ds : List (String × α)} (h : es.Perm ds) (once : (es.map (·.1)).Nodup) :
    ofList es = ofList ds := by
  have once' : (ds.map (·.1)).Nodup := (h.map (·.1)).nodup_iff.1 once
  refine ext_get? fun key => ?_
  rw [get?_ofList_of_nodup once, get?_ofList_of_nodup once']
  exact lookup_congr once once' (fun _ => h.mem_iff) key

/-- Without repeated keys the value of an entry is found under its key. -/
theorem get?_ofList_of_mem {es : List (String × α)} (once : (es.map (·.1)).Nodup) {key : String}
    {value : α} (h : (key, value) ∈ es) : (ofList es).get? key = some value := by
  rw [get?_ofList_of_nodup once]
  exact (lookup_eq_some_iff once).2 h

theorem get?_map (f : α → β) (m : StringMap α) (key : String) :
    (m.map f).get? key = (m.get? key).map f := by
  rw [get?, get?, toList_map]
  induction m.toList with
  | nil => rfl
  | cons e es ih =>
      rw [List.map_cons, List.lookup_cons, List.lookup_cons, ih]
      cases key == e.1 <;> rfl

/-- The map of a function's values can be built from their list. -/
theorem map_ofList (f : α → β) (es : List (String × α)) :
    (ofList es).map f = ofList (es.map fun e => (e.1, f e.2)) := by
  have lookup : ∀ (ds : List (String × α)) (key : String),
      (ds.lookup key).map f = (ds.map fun e => (e.1, f e.2)).lookup key := by
    intro ds key
    induction ds with
    | nil => rfl
    | cons d ds ih =>
        rw [List.map_cons, List.lookup_cons, List.lookup_cons, ← ih]
        cases key == d.1 <;> rfl
  refine ext_get? fun key => ?_
  rw [get?_map, get?_ofList, get?_ofList, lookup, List.map_reverse]

end StringMap

/-! ### Sets of paths -/

/-- Paths of which no two with the same route are spelled differently. -/
def Path.SpelledOnce (ps : List Path) : Prop := ∀ p ∈ ps, ∀ q ∈ ps, p.route = q.route → p = q

namespace PathSet

theorem mem_spellings {s : PathSet} {x : String} :
    x ∈ s.spellings ↔ x ∈ s.toList.map (·.spelling) := StringSet.mem_ofList

/-- Of paths that are spelled once, the set keeps all spellings. -/
theorem spellings_ofList {ps : List Path} (once : Path.SpelledOnce ps) :
    (ofList ps).spellings = StringSet.ofList (ps.map (·.spelling)) := by
  refine StringSet.ofList_congr fun x => ?_
  rw [List.mem_map, List.mem_map]
  constructor
  · rintro ⟨p, hp, rfl⟩
    exact ⟨p, (firsts_sublist ps).subset hp, rfl⟩
  · rintro ⟨p, hp, rfl⟩
    obtain ⟨q, hq, same⟩ := exists_mem_firsts hp
    have eq : q = p := once q ((firsts_sublist ps).subset hq) p hp same
    exact ⟨q, hq, by rw [eq]⟩

/-- Paths of a set with the same route are one. -/
theorem eq_of_route_eq {s : PathSet} {p q : Path} (hp : p ∈ s.toList) (hq : q ∈ s.toList)
    (same : p.route = q.route) : p = q := by
  have routes : (s.toList.map (·.route)).Nodup := by
    rw [List.Nodup, List.pairwise_map]
    exact s.apart
  exact List.inj_on_of_nodup_map routes hp hq same

/-- **A path that is spelled twice shows which spelling came first**: some order of the paths gives
other spellings. -/
theorem exists_perm_spellings_ne {ps : List Path} (twice : ¬ Path.SpelledOnce ps) :
    ∃ qs, ps.Perm qs ∧ (ofList qs).spellings ≠ (ofList ps).spellings := by
  simp only [Path.SpelledOnce, not_forall] at twice
  obtain ⟨p, hp, q, hq, same, ne⟩ := twice
  obtain ⟨first, hfirst, route⟩ := exists_mem_ofList hp
  -- one of the two spellings is not the one that the set keeps
  obtain ⟨other, hother, otherRoute, otherNe⟩ :
      ∃ other ∈ ps, other.route = first.route ∧ other ≠ first := by
    by_cases h : p = first
    · exact ⟨q, hq, same.symm.trans route.symm, fun e => ne (h.trans e.symm)⟩
    · exact ⟨p, hp, route.symm, h⟩
  refine ⟨other :: ps.erase other, List.perm_cons_erase hother, fun eq => ?_⟩
  have shown : other.spelling ∈ (ofList (other :: ps.erase other)).spellings :=
    mem_spellings.2 (List.mem_map.2 ⟨other, List.mem_cons_self, rfl⟩)
  rw [eq, mem_spellings, List.mem_map] at shown
  obtain ⟨kept, hkept, spelling⟩ := shown
  have keptEq : kept = other := Path.ext_spelling spelling
  rw [keptEq] at hkept
  exact otherNe (eq_of_route_eq hkept hfirst otherRoute)

end PathSet

end Compliance
