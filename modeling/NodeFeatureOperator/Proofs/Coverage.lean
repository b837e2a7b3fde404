import Mathlib.Data.List.Induction
import Mathlib.Data.List.Infix
import NodeFeatureOperator.Proofs.Merge

/-!
# Coverage, and what a merge does along a path

A document covers another one when it holds all that the other one asks for (`Json.Covers`), which
is what `Json.Covered` decides. The outcome of a merge covers what was laid over, and a merge
changes nothing exactly when all of it was covered before (`Json.merge_eq_left_iff`).

A merge works on every place by itself. As long as a path meets objects or arrays of one length in
both documents (`Json.AlikeAlong`), the outcome has at its end what a merge makes of the two
documents there (`Json.within?_merge`), and under a name that the upper one lacks it has what the
lower one has. `Json.merge_laws` puts this together.
-/

namespace NodeFeatureOperator.Json

/-! ## Coverage -/

/-- The first document holds all that the second one asks for: the names of an object with what is
asked of each, the items of an array of the same length, or the very same document. -/
inductive Covers : Json → Json → Prop
  | obj {ls ds : Fields}
      (names : ∀ name, Table.contains ds name = true → Table.contains ls name = true)
      (values : ∀ name l d, Table.get? ls name = some l → Table.get? ds name = some d →
        Covers l d) : Covers (.obj ls) (.obj ds)
  | arr {xs ys : List Json} (length : xs.length = ys.length)
      (items : ∀ (n : Nat) x y, xs[n]? = some x → ys[n]? = some y → Covers x y) :
      Covers (.arr xs) (.arr ys)
  | refl (j : Json) : Covers j j

variable {l d l' d' : Json}

theorem covered_of_covers (hd : d.ordered = true) (h : Covers l d) : Covered l d = true := by
  induction h with
  | @obj ls ds names values ih =>
    rw [Covered, coveredFields_iff]
    intro row hrow
    -- `Covered` walks over rows and `Covers` looks names up: the same when the names are in order.
    have hwanted : Table.get? ds row.1 = some row.2 := (ordered_obj.1 hd).1.get?_of_mem hrow
    have hname := names row.1 (by simp [Table.contains, hwanted])
    obtain ⟨l, hl⟩ := Option.isSome_iff_exists.1 hname
    exact ⟨l, hl, ih row.1 l row.2 hl hwanted (ordered_of_get? hd hwanted)⟩
  | arr length items ih =>
    rw [Covered, if_pos length]
    refine coveredItems_of_getElem length ?_
    intro n hx hy
    exact ih n _ _ (List.getElem?_eq_getElem hx) (List.getElem?_eq_getElem hy)
      (ordered_arr.1 hd _ (List.getElem_mem hy))
  | refl j => exact covered_self hd

theorem covers_of_covered (h : Covered l d = true) : Covers l d := by
  induction d using induct generalizing l with
  | null | bool | int | float | str =>
    obtain rfl := of_decide_eq_true h
    exact .refl _
  | arr ys ih =>
    cases l with
    | arr xs =>
      by_cases hlen : xs.length = ys.length
      · rw [Covered, if_pos hlen] at h
        refine .arr hlen ?_
        intro n x y hx hy
        obtain ⟨hnx, rfl⟩ := List.getElem?_eq_some_iff.1 hx
        obtain ⟨hny, rfl⟩ := List.getElem?_eq_some_iff.1 hy
        exact ih _ (List.getElem_mem hny) (getElem_of_coveredItems h hnx hny)
      · rw [Covered, if_neg hlen] at h
        cases h
    | _ => cases h
  | obj ds ih =>
    cases l with
    | obj ls =>
      rw [Covered, coveredFields_iff] at h
      constructor
      · intro name hname
        obtain ⟨d, hd⟩ := Option.isSome_iff_exists.1 hname
        obtain ⟨l, hl, -⟩ := h _ (Table.mem_of_get? hd)
        exact Option.isSome_iff_exists.2 ⟨l, hl⟩
      · intro name l d hl hd
        have hmem := Table.mem_of_get? hd
        obtain ⟨l₀, hl₀, hcovered⟩ := h _ hmem
        obtain rfl : l₀ = l := Option.some.inj (hl₀.symm.trans hl)
        exact ih _ hmem hcovered
    | _ => cases h

theorem covers_merge (hd : d.ordered = true) (l : Json) : Covers (merge l d) d :=
  covers_of_covered (covered_merge hd l)

theorem merge_eq_left_iff (hl : l.ordered = true) (hd : d.ordered = true) :
    merge l d = l ↔ Covers l d := by
  constructor
  · intro h
    have hcovers := covers_merge hd l
    rwa [h] at hcovers
  · intro h
    exact merge_of_covered hl hd (covered_of_covers hd h)

/-! ## Paths -/

/-- One step into a document. -/
inductive Place where
  | name (key : String)
  | item (position : Nat)

/-- What a document has at one place. -/
def child? : Json → Place → Option Json
  | .obj fs, .name key => Table.get? fs key
  | .arr xs, .item n => xs[n]?
  | _, _ => none

/-- What a document has at the end of a path of names and positions. -/
def within? (j : Json) : List Place → Option Json
  | [] => some j
  | place :: path => (j.child? place).bind (·.within? path)

/-- Whether both are objects, or both are arrays of one length. -/
def alike : Json → Json → Bool
  | .obj _, .obj _ => true
  | .arr xs, .arr ys => decide (xs.length = ys.length)
  | _, _ => false

/-- From the start of the path to its end, two documents have objects or arrays of one length. -/
def AlikeAlong (l d : Json) (path : List Place) : Prop :=
  ∀ front, front <+: path →
    ∃ l' ∈ l.within? front, ∃ d' ∈ d.within? front, alike l' d' = true

instance (l d : Json) (path : List Place) : Decidable (AlikeAlong l d path) :=
  decidable_of_iff
    (∀ front ∈ path.inits, ∃ l' ∈ l.within? front, ∃ d' ∈ d.within? front, alike l' d' = true)
    (by simp only [AlikeAlong, List.mem_inits])

variable {place : Place} {path : List Place}

theorem alike_iff : alike l d = true ↔ (∃ ls ds, l = .obj ls ∧ d = .obj ds) ∨
    ∃ xs ys, l = .arr xs ∧ d = .arr ys ∧ xs.length = ys.length := by
  cases l <;> cases d <;> simp [alike]

theorem AlikeAlong.front {front : List Place} (h : AlikeAlong l d path)
    (hfront : front <+: path) : AlikeAlong l d front := by
  intro front' hfront'
  exact h front' (hfront'.trans hfront)

theorem within?_concat (j : Json) (path : List Place) (place : Place) :
    j.within? (path ++ [place]) = (j.within? path).bind (·.child? place) := by
  induction path generalizing j with
  | nil => cases h : j.child? place <;> simp [within?, h]
  | cons first path ih =>
    rw [List.cons_append, within?, within?]
    cases j.child? first with
    | none => rfl
    | some v => exact ih v

theorem ordered_child? (hd : d.ordered = true) (h : d.child? place = some d') :
    d'.ordered = true := by
  cases d with
  | obj ds =>
    cases place with
    | name key => exact ordered_of_get? hd h
    | item n => cases h
  | arr ys =>
    cases place with
    | name key => cases h
    | item n => exact ordered_arr.1 hd _ (List.mem_of_getElem? h)
  | _ => cases h

theorem ordered_within? (hd : d.ordered = true) (h : d.within? path = some d') :
    d'.ordered = true := by
  induction path generalizing d with
  | nil =>
    obtain rfl := Option.some.inj h
    exact hd
  | cons place path ih =>
    obtain ⟨v, hv, h⟩ := Option.bind_eq_some_iff.1 h
    exact ih (ordered_child? hd hv) h

/-- What a merge leaves at one place of two objects, or of two arrays of one length. -/
theorem child?_merge (hd : d.ordered = true) (h : alike l d = true) (place : Place) :
    (merge l d).child? place =
      match d.child? place with
      | none => l.child? place
      | some d' => some ((l.child? place).elim d' (merge · d')) := by
  rcases alike_iff.1 h with ⟨ls, ds, rfl, rfl⟩ | ⟨xs, ys, rfl, rfl, hlen⟩
  · rw [merge]
    cases place with
    | name key => exact get?_mergeFields ls ds (ordered_obj.1 hd).1.names_nodup key
    | item n => rfl
  · rw [merge, if_pos hlen, mergeItems_eq_zipWith]
    cases place with
    | name key => rfl
    | item n =>
      simp only [child?, List.getElem?_zipWith]
      by_cases hn : n < ys.length
      · rw [List.getElem?_eq_getElem hn, List.getElem?_eq_getElem (hlen ▸ hn)]
        rfl
      · rw [List.getElem?_eq_none (Nat.le_of_not_lt hn),
          List.getElem?_eq_none (hlen ▸ Nat.le_of_not_lt hn)]

/-- At the end of a path along which two documents are alike, a merge of them has the merge of what
they have there. -/
theorem within?_merge (hd : d.ordered = true) (h : AlikeAlong l d path)
    (hl' : l.within? path = some l') (hd' : d.within? path = some d') :
    (merge l d).within? path = some (merge l' d') := by
  -- From the end of the path: its front leads to a merge of two documents that are alike.
  induction path using List.reverseRecOn generalizing l' d' with
  | nil =>
    obtain rfl := Option.some.inj hl'
    obtain rfl := Option.some.inj hd'
    rfl
  | append_singleton path place ih =>
    have hfront : path <+: path ++ [place] := List.prefix_append ..
    obtain ⟨l₁, hl₁, d₁, hd₁, halike⟩ := h path hfront
    rw [within?_concat, hl₁, Option.bind_some] at hl'
    rw [within?_concat, hd₁, Option.bind_some] at hd'
    rw [within?_concat, ih (h.front hfront) hl₁ hd₁, Option.bind_some,
      child?_merge (ordered_within? hd hd₁) halike, hd', hl']
    rfl

theorem within?_merge_of_absent (hd : d.ordered = true) (h : AlikeAlong l d path)
    (habsent : d.within? (path ++ [place]) = none) :
    (merge l d).within? (path ++ [place]) = l.within? (path ++ [place]) := by
  obtain ⟨l', hl', d', hd', halike⟩ := h path List.prefix_rfl
  rw [within?_concat, hd', Option.bind_some] at habsent
  rw [within?_concat, within?_concat, within?_merge hd h hl' hd', hl', Option.bind_some,
    Option.bind_some, child?_merge (ordered_within? hd hd') halike, habsent]

/-- **The laws of laying over.** What was laid over is covered, and only what is covered already
makes no difference; so a second merge is idle, and so is a merge of a document with itself. A name
that the upper document lacks keeps its value wherever the two are alike on the way. -/
theorem merge_laws (hl : l.ordered = true) (hd : d.ordered = true) :
    Covers (merge l d) d ∧
    (merge l d = l ↔ Covers l d) ∧
    merge (merge l d) d = merge l d ∧
    merge l l = l ∧
    ∀ path, AlikeAlong l d path → ∀ name, d.within? (path ++ [.name name]) = none →
      (merge l d).within? (path ++ [.name name]) = l.within? (path ++ [.name name]) := by
  refine ⟨covers_merge hd l, merge_eq_left_iff hl hd, merge_merge hl hd, merge_self hl, ?_⟩
  intro path hpath name habsent
  exact within?_merge_of_absent hd hpath habsent

/-- A service keeps its address, and its port keeps the protocol when it gets another number. -/
theorem merge_laws_of_service :
    let live : Json := .obj [("spec", .obj [("clusterIP", .str "10.0.0.1"),
      ("ports", .arr [.obj [("port", .int 1), ("protocol", .str "TCP")]])])]
    let desired : Json := .obj [("spec", .obj [("ports", .arr [.obj [("port", .int 2)]])])]
    let port : List Place := [.name "spec", .name "ports", .item 0]
    live.ordered = true ∧ desired.ordered = true ∧
      Covers (merge live desired) desired ∧ ¬ Covers live desired ∧
      merge (merge live desired) desired = merge live desired ∧ merge live live = live ∧
      AlikeAlong live desired port ∧
      (merge live desired).within? (port ++ [.name "port"]) = some (.int 2) ∧
      (merge live desired).within? (port ++ [.name "protocol"]) = some (.str "TCP") ∧
      (merge live desired).within? [.name "spec", .name "clusterIP"] = some (.str "10.0.0.1") := by
  intro live desired port
  have hlive : live.ordered = true := by decide
  have hdesired : desired.ordered = true := by decide
  have hport : AlikeAlong live desired port := by decide
  obtain ⟨hcovers, hleft, htwice, hself, hkept⟩ := merge_laws hlive hdesired
  refine ⟨hlive, hdesired, hcovers, ?_, htwice, hself, hport, by decide, ?_, ?_⟩
  · rw [← hleft]
    decide
  · exact hkept port hport "protocol" (by decide)
  · exact hkept [.name "spec"] (by decide) "clusterIP" (by decide)

end NodeFeatureOperator.Json
