import NodeFeatureOperator.Proofs.Rendering

/-!
# Desired objects that leave no trace

A merge keeps what the document laid over another does not mention, so it is no matter of course
that nothing is left of the document below. `Json.YieldsTo` says when nothing is: both are of one
shape, the same names everywhere, and arrays of the same length only with items that yield. Two
documents that come out of one by changes at the same places are of one shape, whatever is put there
(`Json.Parallel`). So it is with two renderings of one template, and the second laid over the first
is the second (`ManagedObject.setDesired_overlay`).
-/

namespace NodeFeatureOperator

namespace Json

/-! ## Documents of one shape -/

/-- Whether a document is neither an array nor an object. -/
def isScalar : Json → Bool
  | .arr _ | .obj _ => false
  | _ => true

section

variable (j v : Json) (name : String) (p : Json → Bool) (f : Json → Json)

@[simp] theorem isScalar_set : (j.set name v).isScalar = j.isScalar := by
  cases j <;> rfl

@[simp] theorem isScalar_modify : (j.modify name f).isScalar = j.isScalar := by
  cases j <;> rfl

@[simp] theorem isScalar_mapItems : (j.mapItems f).isScalar = j.isScalar := by
  cases j <;> rfl

@[simp] theorem isScalar_modifyHead : (j.modifyHead f).isScalar = j.isScalar := by
  cases j with
  | arr xs => cases xs <;> rfl
  | _ => rfl

@[simp] theorem isScalar_modifyFirst : (j.modifyFirst p f).isScalar = j.isScalar := by
  cases j <;> rfl

end

/-- Nothing is left of the first document when the second is laid over it. -/
inductive YieldsTo : Json → Json → Prop
  | scalar {l d : Json} (hl : l.isScalar = true) (hd : d.isScalar = true) : YieldsTo l d
  | arr {xs ys : List Json} (items : xs.length = ys.length →
      ∀ (n : Nat) (x y : Json), xs[n]? = some x → ys[n]? = some y → YieldsTo x y) :
      YieldsTo (.arr xs) (.arr ys)
  | obj {ls ds : Fields} (hls : Table.Sorted ls) (hds : Table.Sorted ds)
      (names : ∀ name, (Table.get? ls name).isSome = (Table.get? ds name).isSome)
      (values : ∀ name l d, Table.get? ls name = some l → Table.get? ds name = some d →
        YieldsTo l d) : YieldsTo (.obj ls) (.obj ds)

namespace YieldsTo

variable {l d v w : Json} {name : String}

theorem str (s t : String) : YieldsTo (.str s) (.str t) := .scalar rfl rfl

theorem int (m n : Int) : YieldsTo (.int m) (.int n) := .scalar rfl rfl

/-- Arrays yield if every item of the one yields to every item of the other. -/
theorem arr_of_forall {xs ys : List Json} (h : ∀ x ∈ xs, ∀ y ∈ ys, YieldsTo x y) :
    YieldsTo (.arr xs) (.arr ys) :=
  .arr fun _ _ _ _ hx hy => h _ (List.mem_of_getElem? hx) _ (List.mem_of_getElem? hy)

theorem ofStrings (ss ts : List String) : YieldsTo (.ofStrings ss) (.ofStrings ts) := by
  refine arr_of_forall fun x hx y hy => ?_
  obtain ⟨s, -, rfl⟩ := List.mem_map.1 hx
  obtain ⟨t, -, rfl⟩ := List.mem_map.1 hy
  exact .str s t

theorem refl (hd : d.ordered = true) : YieldsTo d d := by
  induction d using induct with
  | null | bool | int | float | str => exact .scalar rfl rfl
  | arr xs ih =>
    refine .arr fun _ n x y hx hy => ?_
    obtain rfl := Option.some.inj (hx.symm.trans hy)
    have hmem := List.mem_of_getElem? hx
    exact ih x hmem (ordered_arr.1 hd x hmem)
  | obj fs ih =>
    have hsorted := (ordered_obj.1 hd).1
    refine .obj hsorted hsorted (fun _ => rfl) fun name l d hl hl' => ?_
    obtain rfl := Option.some.inj (hl.symm.trans hl')
    exact ih _ (Table.mem_of_get? hl) (ordered_of_get? hd hl)

/-- A document laid over one that yields to it comes out as it is. -/
theorem merge_eq (h : l.YieldsTo d) : merge l d = d := by
  induction h with
  | @scalar l d hl hd => cases d <;> first | rfl | cases hd
  | @arr xs ys items ih =>
    rw [merge]
    split
    · next hlen =>
      rw [mergeItems_eq_zipWith]
      refine congrArg Json.arr (List.ext_getElem (by simp [hlen]) fun n _ hn => ?_)
      rw [List.getElem_zipWith]
      exact ih hlen n _ _ (List.getElem?_eq_getElem (hlen ▸ hn)) (List.getElem?_eq_getElem hn)
    · rfl
  | @obj ls ds hls hds names values ih =>
    rw [merge]
    refine congrArg Json.obj ((mergeFields_sorted hls ds).ext hds fun name => ?_)
    have hname := names name
    rw [get?_mergeFields _ _ hds.names_nodup]
    cases hd : Table.get? ds name with
    | none =>
      rw [hd] at hname
      exact Option.isSome_eq_false_iff.1 hname |> Option.isNone_iff_eq_none.1
    | some d =>
      rw [hd] at hname
      obtain ⟨l, hl⟩ := Option.isSome_iff_exists.1 hname
      rw [hl]
      exact congrArg some (ih name l d hl hd)

/-- Documents of one shape have the same names. -/
theorem isSome_get? (h : l.YieldsTo d) (name : String) :
    (l.get? name).isSome = (d.get? name).isSome := by
  have hscalar {j : Json} (hj : j.isScalar = true) : j.get? name = none := by
    cases j <;> first | rfl | cases hj
  cases h with
  | scalar hl hd => rw [hscalar hl, hscalar hd]
  | arr => rfl
  | obj hls hds names values => exact names name

theorem set (h : l.YieldsTo d) (hv : v.YieldsTo w) : (l.set name v).YieldsTo (d.set name w) := by
  cases h with
  | scalar hl hd => exact .scalar (by rwa [isScalar_set]) (by rwa [isScalar_set])
  | arr items => exact .arr items
  | obj hls hds names values =>
    refine .obj (hls.insert name v) (hds.insert name w) (fun k => ?_) fun k l d hl hd => ?_
    · rw [Table.get?_insert, Table.get?_insert]
      split
      · rfl
      · exact names k
    · rw [Table.get?_insert] at hl hd
      split at hl
      · next heq =>
        rw [if_pos heq] at hd
        obtain rfl := Option.some.inj hl
        obtain rfl := Option.some.inj hd
        exact hv
      · next hne =>
        rw [if_neg hne] at hd
        exact values k l d hl hd

end YieldsTo

/-! ## Changes at one place -/

/-- Functions that take documents of one shape to documents of one shape. -/
def Parallel (f g : Json → Json) : Prop := ∀ l d, YieldsTo l d → YieldsTo (f l) (g d)

namespace Parallel

variable {f g f' g' : Json → Json} {v w : Json} {p : Json → Bool}

theorem comp (hf : Parallel f f') (hg : Parallel g g') :
    Parallel (fun j => f (g j)) fun j => f' (g' j) := fun l d h => hf _ _ (hg l d h)

theorem set (name : String) (hv : v.YieldsTo w) : Parallel (·.set name v) (·.set name w) :=
  fun _ _ h => h.set hv

theorem modify (name : String) (hf : Parallel f g) :
    Parallel (·.modify name f) (·.modify name g) := by
  intro l d h
  cases h with
  | scalar hl hd => exact .scalar (by rwa [isScalar_modify]) (by rwa [isScalar_modify])
  | arr items => exact .arr items
  | @obj ls ds hls hds names values =>
    refine .obj (hls.modify name f) (hds.modify name g) (fun k => ?_) fun k l d hl hd => ?_
    · rw [Table.get?_modify, Table.get?_modify]
      split
      · rw [Option.isSome_map, Option.isSome_map]
        exact names k
      · exact names k
    · rw [Table.get?_modify] at hl hd
      split at hl
      · next heq =>
        rw [if_pos heq] at hd
        obtain ⟨l', hl', rfl⟩ := Option.map_eq_some_iff.1 hl
        obtain ⟨d', hd', rfl⟩ := Option.map_eq_some_iff.1 hd
        exact hf _ _ (values k l' d' hl' hd')
      · next hne =>
        rw [if_neg hne] at hd
        exact values k l d hl hd

theorem modifyAt (path : List String) (hf : Parallel f g) :
    Parallel (·.modifyAt path f) (·.modifyAt path g) := by
  induction path with
  | nil => exact hf
  | cons name path ih => exact modify name ih

theorem mapItems (hf : Parallel f g) : Parallel (·.mapItems f) (·.mapItems g) := by
  intro l d h
  cases h with
  | scalar hl hd => exact .scalar (by rwa [isScalar_mapItems]) (by rwa [isScalar_mapItems])
  | @arr xs ys items =>
    refine .arr fun hlen n x y hx hy => ?_
    rw [List.length_map, List.length_map] at hlen
    rw [List.getElem?_map] at hx hy
    obtain ⟨x', hx', rfl⟩ := Option.map_eq_some_iff.1 hx
    obtain ⟨y', hy', rfl⟩ := Option.map_eq_some_iff.1 hy
    exact hf _ _ (items hlen n x' y' hx' hy')
  | obj hls hds names values => exact .obj hls hds names values

theorem modifyHead (hf : Parallel f g) : Parallel (·.modifyHead f) (·.modifyHead g) := by
  intro l d h
  cases h with
  | scalar hl hd => exact .scalar (by rwa [isScalar_modifyHead]) (by rwa [isScalar_modifyHead])
  | @arr xs ys items =>
    cases xs with
    | nil =>
      cases ys with
      | nil => exact .arr items
      | cons y ys => exact .arr nofun
    | cons x xs =>
      cases ys with
      | nil => exact .arr nofun
      | cons y ys =>
        refine .arr fun hlen n x' y' hx hy => ?_
        cases n with
        | zero =>
          obtain rfl := Option.some.inj hx
          obtain rfl := Option.some.inj hy
          exact hf x y (items hlen 0 x y rfl rfl)
        | succ n => exact items hlen (n + 1) x' y' hx hy
  | obj hls hds names values => exact .obj hls hds names values

theorem length_go (p : Json → Bool) (f : Json → Json) (xs : List Json) :
    (modifyFirst.go p f xs).length = xs.length := by
  induction xs with
  | nil => rfl
  | cons x xs ih =>
    rw [modifyFirst.go]
    split
    · rfl
    · exact congrArg Nat.succ ih

/-- The first item that satisfies `p` stands at the same place in both, if whether an item does
goes by its shape. -/
theorem modifyFirst (hp : ∀ l d, YieldsTo l d → p l = p d) (hf : Parallel f g) :
    Parallel (·.modifyFirst p f) (·.modifyFirst p g) := by
  intro l d h
  cases h with
  | scalar hl hd => exact .scalar (by rwa [isScalar_modifyFirst]) (by rwa [isScalar_modifyFirst])
  | @arr xs ys items =>
    refine .arr fun hlen => ?_
    rw [length_go, length_go] at hlen
    have hitems := items hlen
    clear items
    induction xs generalizing ys with
    | nil => exact fun n x y hx => by simp [modifyFirst.go] at hx
    | cons x xs ih =>
      cases ys with
      | nil => cases hlen
      | cons y ys =>
        have hfirst : x.YieldsTo y := hitems 0 x y rfl rfl
        have hrest (n : Nat) := hitems (n + 1)
        intro n x' y' hx hy
        rw [modifyFirst.go] at hx hy
        rw [hp x y hfirst] at hx
        cases n with
        | zero =>
          split at hx
          · next hpy =>
            rw [if_pos hpy] at hy
            obtain rfl := Option.some.inj hx
            obtain rfl := Option.some.inj hy
            exact hf x y hfirst
          · next hpy =>
            rw [if_neg hpy] at hy
            obtain rfl := Option.some.inj hx
            obtain rfl := Option.some.inj hy
            exact hfirst
        | succ n =>
          split at hx
          · next hpy =>
            rw [if_pos hpy] at hy
            exact hrest n x' y' hx hy
          · next hpy =>
            rw [if_neg hpy] at hy
            exact ih (Nat.succ.inj hlen) hrest n x' y' hx hy
  | obj hls hds names values => exact .obj hls hds names values

end Parallel

end Json

/-! ## Pods -/

namespace Pod

open Json

theorem setImages_parallel (image image' pullPolicy pullPolicy' : String) :
    Parallel (setImages · image pullPolicy) (setImages · image' pullPolicy') := by
  have hcontainer : Parallel
      (fun c => (c.set "image" (.str image)).set "imagePullPolicy" (.str pullPolicy))
      (fun c => (c.set "image" (.str image')).set "imagePullPolicy" (.str pullPolicy')) :=
    .comp (.set _ (.str ..)) (.set _ (.str ..))
  exact .modify _ hcontainer.mapItems

theorem modifyFirstContainer_parallel {f g : Json → Json} (hf : Parallel f g) :
    Parallel (modifyFirstContainer · f) (modifyFirstContainer · g) :=
  .modify _ hf.modifyHead

theorem setArguments_parallel (arguments arguments' : List String) :
    Parallel (setArguments · arguments) (setArguments · arguments') :=
  modifyFirstContainer_parallel (.set _ (.ofStrings ..))

theorem setPort_parallel (port port' : Int) : Parallel (setPort · port) (setPort · port') := by
  have hport : Parallel (·.set "containerPort" (.int port)) (·.set "containerPort" (.int port')) :=
    .set _ (.int ..)
  exact modifyFirstContainer_parallel (.modify _ hport.modifyHead)

theorem configItem_yieldsTo (name name' : String) :
    (configItem name).YieldsTo (configItem name') := by
  have hset (name : String) : configItem name
      = (((Json.obj []).set "path" (.str name)).set "key" (.str name)) := rfl
  have hempty : (Json.obj []).YieldsTo (.obj []) := .refl rfl
  rw [hset, hset]
  exact (hempty.set (.str ..)).set (.str ..)

theorem setConfigItems_parallel (names names' : List String) :
    Parallel (setConfigItems · names) (setConfigItems · names') := by
  have hitems : (Json.arr (names.map configItem)).YieldsTo (.arr (names'.map configItem)) := by
    refine .arr_of_forall fun x hx y hy => ?_
    obtain ⟨name, -, rfl⟩ := List.mem_map.1 hx
    obtain ⟨name', -, rfl⟩ := List.mem_map.1 hy
    exact configItem_yieldsTo name name'
  have hvolume : Parallel
      (fun v => v.modify "configMap" (·.set "items" (.arr (names.map configItem))))
      (fun v => v.modify "configMap" (·.set "items" (.arr (names'.map configItem)))) :=
    .modify _ (.set _ hitems)
  exact .modify _ (hvolume.modifyFirst fun l d h => h.isSome_get? "configMap")

end Pod

/-! ## Objects -/

/-- Tables of texts with the same names yield to one another. -/
theorem Json.yieldsTo_ofStringTable {s t : Table String String} (hs : Table.Sorted s)
    (ht : Table.Sorted t) (names : ∀ k, (Table.get? s k).isSome = (Table.get? t k).isSome) :
    (Json.ofStringTable s).YieldsTo (.ofStringTable t) := by
  have hget (t : Table String String) (k : String) := Table.get?_map t (fun _ v => Json.str v) k
  refine .obj (hs.map fun _ => Json.str) (ht.map fun _ => Json.str) (fun k => ?_)
    fun k l d hl hd => ?_
  · rw [hget, hget, Option.isSome_map, Option.isSome_map]
    exact names k
  · rw [hget] at hl hd
    obtain ⟨v, -, rfl⟩ := Option.map_eq_some_iff.1 hl
    obtain ⟨w, -, rfl⟩ := Option.map_eq_some_iff.1 hd
    exact .str v w

/-- Labels of the same names leave no trace of one another. -/
theorem Metadata.overlayLabels_of_names {s t : Table String String} (hs : Table.Sorted s)
    (ht : Table.Sorted t) (names : ∀ k, (Table.get? s k).isSome = (Table.get? t k).isSome) :
    overlayLabels (some s) (some t) = some t := by
  rw [overlayLabels, Option.elim_some, (Json.yieldsTo_ofStringTable hs ht names).merge_eq,
    Json.asStringTable?_ofStringTable]

namespace ManagedObject

open Json

variable {o o' t : ManagedObject} {i j : Instance} {image image' : String}

/-- Changes at the same place of bodies of one shape lead to bodies of one shape. -/
theorem modifyAt_yieldsTo (h : (Json.obj o.body).YieldsTo (.obj o'.body)) {f g : Json → Json}
    (hf : Parallel f g) (name : String) (path : List String) :
    (Json.obj (o.modifyAt (name :: path) f).body).YieldsTo
      (.obj (o'.modifyAt (name :: path) g).body) :=
  hf.modifyAt (name :: path) _ _ h

/-- The settings that are laid on the body of a template are laid on the same places. The files of a
configuration are not of one shape, and the arguments of a job stand behind those that it has. -/
theorem setBody_yieldsTo (hbody : (Json.obj t.body).ordered = true) (hconfig : t.kind ≠ .configMap)
    (hjob : t.kind ≠ .job) (i j : Instance) (image image' : String) :
    (Json.obj (t.setDesired i image).body).YieldsTo (.obj (t.setDesired j image').body) := by
  have hsame : (Json.obj (t.setPlace i).body).YieldsTo (.obj (t.setPlace j).body) := .refl hbody
  have himages := Pod.setImages_parallel image image' i.pullPolicy j.pullPolicy
  unfold setDesired setBody
  simp only [setPlace_kind, setPlace_name]
  cases hkind : t.kind with
  | roleBinding | clusterRoleBinding =>
    have hsubject : Parallel (·.set "namespace" (.str i.ns)) (·.set "namespace" (.str j.ns)) :=
      .set _ (.str ..)
    exact modifyAt_yieldsTo hsame hsubject.mapItems ..
  | securityContextConstraints =>
    refine modifyAt_yieldsTo hsame (.mapItems fun l d h => ?_) ..
    cases h with
    | scalar hl hd =>
      refine .scalar ?_ ?_
      · cases l <;> first | rfl | cases hl
      · cases d <;> first | rfl | cases hd
    | arr items => exact .arr items
    | obj hls hds names values => exact .obj hls hds names values
  | configMap => exact absurd hkind hconfig
  | daemonSet =>
    dsimp only
    split
    · exact modifyAt_yieldsTo hsame
        (.comp (Pod.setConfigItems_parallel _ _) (.comp (Pod.setArguments_parallel _ _) himages)) ..
    · exact modifyAt_yieldsTo hsame himages ..
  | deployment =>
    dsimp only
    split
    · exact modifyAt_yieldsTo hsame
        (.comp (Pod.setPort_parallel _ _) (.comp (Pod.setArguments_parallel _ _) himages)) ..
    · exact modifyAt_yieldsTo hsame himages ..
  | service =>
    have hport : Parallel
        (fun p => (p.set "port" (.int i.servicePort)).set "targetPort" (.int i.servicePort))
        (fun p => (p.set "port" (.int j.servicePort)).set "targetPort" (.int j.servicePort)) :=
      .comp (.set _ (.int ..)) (.set _ (.int ..))
    exact modifyAt_yieldsTo hsame hport.modifyHead ..
  | job => exact absurd hkind hjob
  | serviceAccount | role | clusterRole => exact hsame

/-- Place and labels of one instance leave no trace of those of another. -/
theorem setPlace_overlay (ht : t.Wish) (i j : Instance) :
    (t.setPlace i).metadata.overlay (t.setPlace j).metadata = (t.setPlace j).metadata := by
  cases hscope : t.kind.clusterScoped with
  | true =>
    have hplace : (t.setPlace i).metadata = (t.setPlace j).metadata := by
      unfold setPlace mapMetadata
      simp only [hscope, if_true]
    rw [hplace]
    exact Metadata.overlay_self (ht.wellFormed.setPlace j).metadata
  | false =>
    have hmanaged := ht.wellFormed.labels_sorted.insert managedByLabel managedBy
    have hor (a : Option String) : a.or a = a := by cases a <;> rfl
    unfold setPlace mapMetadata Metadata.overlay
    simp only [hscope, Bool.false_eq_true, if_false]
    rw [Metadata.overlayLabels_of_names (hmanaged.insert instanceLabel i.name)
      (hmanaged.insert instanceLabel j.name) (fun k => by
        rw [Table.get?_insert, Table.get?_insert _ instanceLabel]
        split <;> rfl)]
    simp only [Metadata.revise, hor, Option.some_or]

/-- Of one rendering of a template nothing is left when another is laid over it. -/
theorem setDesired_overlay (ht : t.Wish) (hjob : t.kind ≠ .job) (hj : j.spec.WellFormed)
    (i : Instance) (image image' : String) :
    (t.setDesired i image).overlay (t.setDesired j image') = t.setDesired j image' := by
  have hkind (i : Instance) (image : String) : (t.setDesired i image).kind = t.kind := by
    unfold setDesired
    rw [setBody_kind, setPlace_kind]
  have hmetadata (i : Instance) (image : String) :
      (t.setDesired i image).metadata = (t.setPlace i).metadata := setBody_metadata ..
  have hwish := ht.setDesired hj image'
  have hbody : Json.mergeFields ((t.setDesired i image).base (t.setDesired j image'))
      (t.setDesired j image').body = (t.setDesired j image').body := by
    by_cases hconfig : t.kind = .configMap
    · -- The files are replaced before anything is laid over them, and all else is the template's.
      have hbase : (t.setDesired i image).base (t.setDesired j image')
          = (t.setDesired j image').body := by
        have hfiles (i : Instance) (image : String) : (t.setDesired i image).body
            = Table.insert t.body "data" (.ofStringTable i.configFiles) := by
          unfold setDesired setBody
          rw [setPlace_kind, hconfig]
          rfl
        have hsorted := ht.wellFormed.sorted
        unfold base
        rw [hkind, hconfig, get?_data_setDesired hconfig, hfiles, hfiles]
        refine ((hsorted.insert ..).insert ..).ext (hsorted.insert ..) fun k => ?_
        simp only [Table.get?_insert]
        split <;> rfl
      rw [hbase]
      exact Json.obj.inj (Json.merge_self hwish.wellFormed.body.ordered)
    · have hbase : (t.setDesired i image).base (t.setDesired j image')
          = (t.setDesired i image).body := by
        rcases base_cases (t.setDesired i image) (t.setDesired j image') with
          ⟨-, hkind', -⟩ | ⟨-, hbase⟩
        · exact absurd ((hkind j image').symm.trans hkind') hconfig
        · exact hbase
      rw [hbase]
      exact Json.obj.inj
        (setBody_yieldsTo ht.wellFormed.body.ordered hconfig hjob i j image image').merge_eq
  unfold overlay
  rw [hbody, hmetadata, hmetadata, setPlace_overlay ht, hkind, ← hkind j image',
    ← hmetadata j image']

end ManagedObject

end NodeFeatureOperator
