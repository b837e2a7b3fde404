import Mathlib.Data.List.Forall2
import Mathlib.Data.List.TakeWhile
import Mathlib.Logic.Function.Conjugate
import NodeFeatureOperator.Proofs.Rendering

/-!
# Settings laid over settings

The settings of an instance are laid on an object at fixed places, whatever stands there, so nothing
is left of the settings of one instance when those of another are laid over them
(`ManagedObject.setDesired_overwrites`). `Json.Overwrites` says this of changes of documents. It
passes from a change at a place to the change of the whole document, and from changes to a sequence
of them if those of different places can change places (`Json.Overwrites.comp`).

Two changes depend on what stands at their place. A user is moved only as long as it is a service
account, so namespaces must not hold the separator of its parts (`moveUser_moveUser`). A job keeps
the arguments that it has, so only the same settings find nothing to do
(`Pod.addArguments_overwrites`).
-/

namespace NodeFeatureOperator

namespace Json

variable {f g f' g' : Json → Json} {a b : String}

/-! ## Changes of different places -/

theorem get?_set_of_ne (j : Json) (h : a ≠ b) (v : Json) : (j.set a v).get? b = j.get? b := by
  cases j with
  | obj fs => exact (Table.get?_insert ..).trans (if_neg h)
  | _ => rfl

/-- What stands at a place after a change there. -/
theorem at?_modifyAt (j : Json) (path : List String) (f : Json → Json) :
    (j.modifyAt path f).at? path = (j.at? path).map f := by
  induction path generalizing j with
  | nil => rfl
  | cons name path ih =>
    cases j with
    | obj fs =>
      change (Table.get? (Table.modify fs name (·.modifyAt path f)) name).bind (·.at? path)
        = ((Table.get? fs name).bind (·.at? path)).map f
      rw [Table.get?_modify, if_pos rfl]
      cases Table.get? fs name with
      | none => rfl
      | some v => exact ih v
    | _ => rfl

theorem set_comm (h : a ≠ b) (v w : Json) : Function.Commute (set · a v) (set · b w) := by
  intro j
  cases j with
  | obj fs => exact congrArg obj (Table.insert_comm fs h.symm w v)
  | _ => rfl

theorem modify_set_comm (h : a ≠ b) (f : Json → Json) (v : Json) :
    Function.Commute (modify · a f) (set · b v) := by
  intro j
  cases j with
  | obj fs => exact congrArg obj (Table.modify_insert fs h f v)
  | _ => rfl

theorem modify_comm (h : a ≠ b) (f g : Json → Json) :
    Function.Commute (modify · a f) (modify · b g) := by
  intro j
  cases j with
  | obj fs => exact congrArg obj (Table.modify_comm fs h.symm g f)
  | _ => rfl

/-- Changes of the same place change places if they do there. -/
theorem modify_commute (name : String) (h : Function.Commute f g) :
    Function.Commute (modify · name f) (modify · name g) := by
  intro j
  cases j with
  | obj fs =>
    refine congrArg obj ?_
    rw [Table.modify_modify, Table.modify_modify]
    exact congrArg (Table.modify fs name) (funext fun v => h v)
  | _ => rfl

/-- What is done to all items changes places with what is done to the first if both do for one. -/
theorem mapItems_modifyHead_commute (h : Function.Commute f g) :
    Function.Commute (mapItems · f) (modifyHead · g) := by
  intro j
  cases j with
  | arr xs =>
    cases xs with
    | nil => rfl
    | cons x xs => exact congrArg (fun y => arr (y :: xs.map f)) (h x)
  | _ => rfl

theorem modifyHead_commute (h : Function.Commute f g) :
    Function.Commute (modifyHead · f) (modifyHead · g) := by
  intro j
  cases j with
  | arr xs =>
    cases xs with
    | nil => rfl
    | cons x xs => exact congrArg (fun y => arr (y :: xs)) (h x)
  | _ => rfl

theorem isSome_get?_modify (j : Json) (name : String) (f : Json → Json) (k : String) :
    ((j.modify name f).get? k).isSome = (j.get? k).isSome := by
  cases j with
  | obj fs =>
    change (Table.get? (Table.modify fs name f) k).isSome = (Table.get? fs k).isSome
    rw [Table.get?_modify]
    split
    · exact Option.isSome_map
    · rfl
  | _ => rfl

/-! ## Changes that overwrite changes -/

/-- Nothing is left of what `f` does when `g` is done after it. -/
def Overwrites (g f : Json → Json) : Prop := ∀ j, g (f j) = g j

namespace Overwrites

/-- A sequence overwrites another part by part if the parts can be sorted out. -/
theorem comp (h : Overwrites g f) (h' : Overwrites g' f') (hcomm : Function.Commute g f') :
    Overwrites (fun j => g' (g j)) fun j => f' (f j) := by
  intro j
  calc g' (g (f' (f j))) = g' (f' (g (f j))) := by rw [hcomm]
    _ = g' (g (f j)) := h' _
    _ = g' (g j) := by rw [h]

theorem set (name : String) (v w : Json) : Overwrites (·.set name w) (·.set name v) := by
  intro j
  cases j with
  | obj fs => exact congrArg obj (Table.insert_insert fs name v w)
  | _ => rfl

theorem modify (name : String) (h : Overwrites g f) :
    Overwrites (·.modify name g) (·.modify name f) := by
  intro j
  cases j with
  | obj fs =>
    refine congrArg obj ((Table.modify_modify fs name f g).trans ?_)
    exact congrArg (Table.modify fs name) (funext h)
  | _ => rfl

theorem modifyAt (path : List String) (h : Overwrites g f) :
    Overwrites (·.modifyAt path g) (·.modifyAt path f) := by
  induction path with
  | nil => exact h
  | cons name path ih => exact ih.modify name

theorem mapItems (h : Overwrites g f) : Overwrites (·.mapItems g) (·.mapItems f) := by
  intro j
  cases j with
  | arr xs => exact congrArg arr (List.map_map.trans (List.map_congr_left fun x _ => h x))
  | _ => rfl

theorem modifyHead (h : Overwrites g f) : Overwrites (·.modifyHead g) (·.modifyHead f) := by
  intro j
  cases j with
  | arr xs =>
    cases xs with
    | nil => rfl
    | cons x xs => exact congrArg (fun y => arr (y :: xs)) (h x)
  | _ => rfl

/-- The first item that satisfies `p` is overwritten, if `f` lets it satisfy `p`. -/
theorem modifyFirst {p : Json → Bool} (hp : ∀ j, p (f j) = p j) (h : Overwrites g f) :
    Overwrites (·.modifyFirst p g) (·.modifyFirst p f) := by
  intro j
  cases j with
  | arr xs =>
    refine congrArg arr ?_
    induction xs with
    | nil => rfl
    | cons x xs ih =>
      by_cases hx : p x = true
      · simp [Json.modifyFirst.go, hx, hp, h x]
      · simp [Json.modifyFirst.go, hx, ih]
  | _ => rfl

end Overwrites

end Json

/-! ## Pods -/

namespace Pod

open Json

variable {f : Json → Json}

theorem setImages_overwrites (image image' pullPolicy pullPolicy' : String) :
    Overwrites (setImages · image' pullPolicy') (setImages · image pullPolicy) := by
  have hcontainer : Overwrites
      (fun c => (c.set "image" (.str image')).set "imagePullPolicy" (.str pullPolicy'))
      (fun c => (c.set "image" (.str image)).set "imagePullPolicy" (.str pullPolicy)) :=
    .comp (.set _ _ _) (.set _ _ _) (set_comm (by decide) _ _)
  exact .modify _ hcontainer.mapItems

/-- A change of the first container changes places with that of all images if it leaves alone what
a container says about its image. -/
theorem setImages_commute (image pullPolicy : String)
    (h : ∀ name ∈ ["image", "imagePullPolicy"], ∀ v,
      Function.Commute (Json.set · name v) f) :
    Function.Commute (setImages · image pullPolicy) (modifyFirstContainer · f) := by
  have hcontainer : Function.Commute
      (fun c => (c.set "image" (.str image)).set "imagePullPolicy" (.str pullPolicy)) f :=
    (h "imagePullPolicy" (by simp) _).comp_left (h "image" (by simp) _)
  exact modify_commute _ (mapItems_modifyHead_commute hcontainer)

/-- What does not concern the image of a container. -/
theorem ne_of_imageName : ∀ name ∈ ["args", "ports"],
    ∀ other ∈ ["image", "imagePullPolicy"], other ≠ name := by decide

theorem setArguments_overwrites (arguments arguments' : List String) :
    Overwrites (setArguments · arguments') (setArguments · arguments) :=
  .modify _ (Overwrites.set _ _ _).modifyHead

theorem setImages_setArguments (image pullPolicy : String) (arguments : List String) :
    Function.Commute (setImages · image pullPolicy) (setArguments · arguments) :=
  setImages_commute image pullPolicy fun name hname _ =>
    set_comm (ne_of_imageName "args" (by decide) name hname) _ _

theorem setPort_overwrites (port port' : Int) :
    Overwrites (setPort · port') (setPort · port) := by
  have hport : Overwrites (·.set "containerPort" (.int port'))
      (·.set "containerPort" (.int port)) := .set _ _ _
  exact .modify _ (hport.modifyHead.modify "ports").modifyHead

theorem setImages_setPort (image pullPolicy : String) (port : Int) :
    Function.Commute (setImages · image pullPolicy) (setPort · port) :=
  setImages_commute image pullPolicy fun name hname _ =>
    (modify_set_comm (ne_of_imageName "ports" (by decide) name hname).symm _ _).symm

theorem setArguments_setPort (arguments : List String) (port : Int) :
    Function.Commute (setArguments · arguments) (setPort · port) := by
  refine modify_commute _ (modifyHead_commute ?_)
  exact (modify_set_comm (by decide) _ _).symm

/-- The volumes of a pod have nothing to do with its containers. -/
theorem setConfigItems_commute (names : List String) (f : Json → Json) :
    Function.Commute (·.modify "containers" f) (setConfigItems · names) :=
  modify_comm (by decide) _ _

theorem setConfigItems_overwrites (names names' : List String) :
    Overwrites (setConfigItems · names') (setConfigItems · names) := by
  have hvolume : Overwrites
      (fun v => v.modify "configMap" (·.set "items" (.arr (names'.map configItem))))
      (fun v => v.modify "configMap" (·.set "items" (.arr (names.map configItem)))) :=
    .modify _ (.set _ _ _)
  exact .modify _ (hvolume.modifyFirst fun v => isSome_get?_modify ..)

/-- Arguments that are there are not added again. -/
theorem addArguments_overwrites (arguments : List String) :
    Overwrites (addArguments · arguments) (addArguments · arguments) := by
  refine .modify _ (Overwrites.modifyHead fun c => ?_)
  cases c with
  | obj fs =>
    simp only [Json.set, Json.get?, Json.asObject?, Option.bind_some, Table.get?_insert_self,
      Json.asArray?, Option.getD_some, Table.insert_insert]
    -- What is missing the first time is present the second time.
    refine congrArg (fun items => Json.obj (Table.insert fs "args" (.arr items))) ?_
    refine List.append_right_eq_self.2 (List.filter_eq_nil_iff.2 fun x hx hmissing => ?_)
    have hmissing := of_decide_eq_true hmissing
    refine hmissing (List.mem_append.2 (Decidable.or_iff_not_imp_left.2 fun habsent => ?_))
    exact List.mem_filter.2 ⟨hx, decide_eq_true habsent⟩
  | _ => rfl

theorem setImages_addArguments (image pullPolicy : String) (arguments : List String) :
    Function.Commute (setImages · image pullPolicy) (addArguments · arguments) := by
  refine setImages_commute image pullPolicy fun name hname v c => ?_
  have hname := ne_of_imageName "args" (by decide) name hname
  simp only [get?_set_of_ne c hname v]
  exact set_comm hname _ _ c

end Pod

/-! ## Users -/

/-- The user is the service account of a name, in whatever namespace. -/
def IsServiceAccount (user account : String) : Prop :=
  ∃ ns : String, ':' ∉ ns.toList ∧ user = accountUser ++ ns ++ ":" ++ account

/-- What is to become of a user in a namespace: a service account moves there, and any other user
stays. -/
structure MovedTo (ns user user' : String) : Prop where
  account : ∀ account, IsServiceAccount user account →
    user' = accountUser ++ ns ++ ":" ++ account
  other : (∀ account, ¬ IsServiceAccount user account) → user' = user

theorem moveUser_of_isServiceAccount {user account : String} (h : IsServiceAccount user account)
    (ns : String) : moveUser ns user = accountUser ++ ns ++ ":" ++ account := by
  obtain ⟨before, hbefore, rfl⟩ := h
  have hrest : (accountUser ++ before ++ ":" ++ account).toList
      = accountUser.toList ++ (before.toList ++ ':' :: account.toList) := by simp
  have hpart : ∀ c ∈ before.toList, decide (c ≠ ':') = true := fun c hc =>
    decide_eq_true fun heq => hbefore (heq ▸ hc)
  have hcut : (before.toList ++ ':' :: account.toList).dropWhile (· ≠ ':')
      = ':' :: account.toList := List.dropWhile_append_of_pos hpart
  unfold moveUser
  simp only [hrest, List.isPrefixOf_iff_prefix.2 (List.prefix_append ..), if_true,
    List.drop_left, hcut, String.ofList_toList]

/-- A user that is no service account stays. -/
theorem moveUser_of_other {user : String} (h : ∀ account, ¬ IsServiceAccount user account)
    (ns : String) : moveUser ns user = user := by
  unfold moveUser
  dsimp only
  split
  · next hlead =>
    obtain ⟨rest, hrest⟩ := List.isPrefixOf_iff_prefix.1 hlead
    rw [← hrest, List.drop_left]
    split
    · next account hcut =>
      -- The user is made up of the lead, what stands in front of the first separator, and the rest.
      obtain ⟨before, hbefore, hparts⟩ :
          ∃ before, ':' ∉ before ∧ rest = before ++ ':' :: account := by
        refine ⟨rest.takeWhile (· ≠ ':'), fun hsep => ?_, ?_⟩
        · have hother := List.mem_takeWhile_imp hsep
          exact of_decide_eq_true hother rfl
        · rw [← hcut, List.takeWhile_append_dropWhile]
      refine absurd ⟨.ofList before, ?_, String.toList_inj.1 ?_⟩ (h (.ofList account))
      · rwa [String.toList_ofList]
      · rw [← hrest, hparts]
        simp
    · rfl
  · rfl

theorem moveUser_movedTo (ns user : String) : MovedTo ns user (moveUser ns user) :=
  ⟨fun _ h => moveUser_of_isServiceAccount h ns, fun h => moveUser_of_other h ns⟩

/-- Of a namespace without separator nothing is left when a user moves on. -/
theorem moveUser_moveUser {ns : String} (hns : ':' ∉ ns.toList) (ns' user : String) :
    moveUser ns' (moveUser ns user) = moveUser ns' user := by
  by_cases h : ∃ account, IsServiceAccount user account
  · obtain ⟨account, haccount⟩ := h
    rw [moveUser_of_isServiceAccount haccount, moveUser_of_isServiceAccount haccount]
    exact moveUser_of_isServiceAccount ⟨ns, hns, rfl⟩ ns'
  · rw [moveUser_of_other (not_exists.1 h)]

/-! ## Objects -/

namespace ManagedObject

open Json

variable {o : ManagedObject} {i j : Instance} {image image' : String}

theorem modifyAt_overwrites {f g : Json → Json} (h : Overwrites g f) (o : ManagedObject)
    (name : String) (path : List String) :
    (o.modifyAt (name :: path) f).modifyAt (name :: path) g = o.modifyAt (name :: path) g := by
  have hbody := h.modifyAt (name :: path) (.obj o.body)
  exact congrArg (fun body => { o with body }) (Json.obj.inj hbody)

/-- Place and labels of one instance are overwritten by those of another. -/
theorem setPlace_setPlace (o : ManagedObject) (i j : Instance) :
    (o.setPlace i).setPlace j = o.setPlace j := by
  have hlabels : instanceLabel ≠ managedByLabel := by decide
  unfold setPlace mapMetadata
  cases o.kind.clusterScoped with
  | true => simp [Table.insert_insert]
  | false =>
    simp only [Bool.false_eq_true, if_false, Option.getD_some]
    rw [Table.insert_comm _ hlabels, Table.insert_insert, Table.insert_insert]

/-- The place of an object has nothing to do with its body. -/
theorem setBody_setPlace (o : ManagedObject) (i j : Instance) (image : String) :
    (o.setBody i image).setPlace j = (o.setPlace j).setBody i image := by
  have hmodify (path : List String) (f : Json → Json) :
      (o.modifyAt path f).setPlace j = (o.setPlace j).modifyAt path f := by
    have hbody : (o.setPlace j).body = o.body := rfl
    unfold ManagedObject.modifyAt
    rw [hbody]
    split <;> rfl
  unfold setBody
  rw [setPlace_kind, setPlace_name]
  cases o.kind with
  | daemonSet =>
    dsimp only
    split <;> exact hmodify ..
  | deployment =>
    dsimp only
    split <;> exact hmodify ..
  | configMap => rfl
  | serviceAccount | role | clusterRole => rfl
  | _ => exact hmodify ..

/-- The settings of one instance on the body are overwritten by those of another, the arguments of
jobs apart. -/
theorem setBody_setBody (hjob : o.kind ≠ .job) (hns : ':' ∉ i.ns.toList) (j : Instance)
    (image image' : String) : (o.setBody i image).setBody j image' = o.setBody j image' := by
  have himages := Pod.setImages_overwrites image image' i.pullPolicy j.pullPolicy
  have harguments (first second : List String) := Overwrites.comp himages
    (Pod.setArguments_overwrites first second) (Pod.setImages_setArguments _ _ _)
  have hkind := o.setBody_kind i image
  have hmetadata := o.setBody_metadata i image
  unfold setBody at hkind hmetadata ⊢
  rw [hkind, hmetadata]
  cases hk : o.kind with
  | roleBinding | clusterRoleBinding =>
    exact modifyAt_overwrites (Overwrites.mapItems (.set _ _ _)) ..
  | securityContextConstraints =>
    refine modifyAt_overwrites (Overwrites.mapItems fun user => ?_) ..
    cases user with
    | str user => exact congrArg Json.str (moveUser_moveUser hns j.ns user)
    | _ => rfl
  | configMap =>
    exact congrArg (fun body => { o with body }) (Table.insert_insert ..)
  | daemonSet =>
    dsimp only
    split
    · refine modifyAt_overwrites (.comp (harguments _ _) (Pod.setConfigItems_overwrites _ _) ?_) ..
      exact (Pod.setConfigItems_commute _ _).comp_left (Pod.setConfigItems_commute _ _)
    · exact modifyAt_overwrites himages ..
  | deployment =>
    dsimp only
    split
    · refine modifyAt_overwrites (.comp (harguments _ _) (Pod.setPort_overwrites _ _) ?_) ..
      exact (Pod.setArguments_setPort _ _).comp_left (Pod.setImages_setPort _ _ _)
    · exact modifyAt_overwrites himages ..
  | service =>
    refine modifyAt_overwrites (Overwrites.modifyHead ?_) ..
    exact .comp (.set _ _ _) (.set _ _ _) (set_comm (by decide) _ _)
  | job => exact absurd hk hjob
  | serviceAccount | role | clusterRole => rfl

/-- Settings that are laid on the body already change nothing, those of jobs included. -/
theorem setBody_again (o : ManagedObject) (hns : ':' ∉ i.ns.toList) (image : String) :
    (o.setBody i image).setBody i image = o.setBody i image := by
  by_cases hjob : o.kind = .job
  · have hkind := o.setBody_kind i image
    unfold setBody at hkind ⊢
    rw [hkind, hjob]
    exact modifyAt_overwrites (.comp (Pod.setImages_overwrites _ _ _ _)
      (Pod.addArguments_overwrites _) (Pod.setImages_addArguments _ _ _)) ..
  · exact setBody_setBody hjob hns i image image

/-- Settings come down to one after the other if those on the body do. -/
theorem setDesired_setDesired (h : ((o.setPlace j).setBody i image).setBody j image'
      = (o.setPlace j).setBody j image') :
    (o.setDesired i image).setDesired j image' = o.setDesired j image' := by
  unfold setDesired
  rw [setBody_setPlace, setPlace_setPlace, h]

/-- The users of security context constraints are texts. -/
theorem WellFormed.exists_users (ho : o.WellFormed) (hkind : o.kind = .securityContextConstraints) :
    ∃ users, o.at? ["users"] = some (.ofStrings users) := by
  have hfield : Table.get? o.kind.body.fields "users" = some (.defaulted, Schema.texts) := by
    rw [hkind]
    rfl
  have husers := (Kind.body_normal_iff.1 ho.body).2 "users"
  rw [hfield] at husers
  have hat : o.at? ["users"] = Table.get? o.body "users" := Option.bind_fun_some _
  cases hv : Table.get? o.body "users" with
  | none =>
    rw [hv] at husers
    cases husers
  | some v =>
    rw [hv] at husers
    obtain ⟨xs, rfl, hxs⟩ := Schema.normal_list.1 (show Schema.texts.Normal v from husers.1)
    refine ⟨xs.map fun x => x.asString?.getD "", hat.trans (hv.trans (congrArg _ ?_))⟩
    refine congrArg Json.arr (List.map_map.trans ?_).symm
    refine (List.map_congr_left fun x hx => ?_).trans (List.map_id xs)
    obtain ⟨user, rfl⟩ := Schema.normal_text.1 (hxs x hx)
    rfl

/-- The users of security context constraints move to the namespace of the instance. -/
theorem at?_users_setDesired (hkind : o.kind = .securityContextConstraints) {users : List String}
    (h : o.at? ["users"] = some (.ofStrings users)) (i : Instance) (image : String) :
    (o.setDesired i image).at? ["users"] = some (.ofStrings (users.map (moveUser i.ns))) := by
  obtain ⟨move, hmove, hmoved⟩ : ∃ move : Json → Json,
      (∀ user, move (.str user) = .str (moveUser i.ns user)) ∧
        (o.setDesired i image).at? ["users"] = (o.at? ["users"]).map (·.mapItems move) := by
    unfold setDesired setBody
    rw [setPlace_kind, hkind]
    exact ⟨_, fun user => rfl, Json.at?_modifyAt (.obj o.body) ["users"] _⟩
  have hitems : (users.map Json.str).map move = (users.map (moveUser i.ns)).map Json.str := by
    rw [List.map_map, List.map_map]
    exact List.map_congr_left fun user _ => hmove user
  rw [hmoved, h]
  exact congrArg (fun items => some (Json.arr items)) hitems

/-- The settings of an instance overwrite those of another, whatever object they are laid on. Only
jobs keep the arguments that they were given before, but on them, too, the same settings need not be
laid twice. The service accounts among the users of security context constraints end up in the
namespace of the last instance, and all other users stay as they are. -/
theorem setDesired_overwrites (o : ManagedObject) (i j : Instance) (image image' : String)
    (hi : ':' ∉ i.ns.toList) (hj : ':' ∉ j.ns.toList) :
    let laid := (o.setDesired i image).setDesired j image'
    (o.kind ≠ .job → laid = o.setDesired j image') ∧
    (o.setDesired j image').setDesired j image' = o.setDesired j image' ∧
    (o.WellFormed → o.kind = .securityContextConstraints → ∃ users users',
      o.at? ["users"] = some (.ofStrings users) ∧
      laid.at? ["users"] = some (.ofStrings users') ∧
      List.Forall₂ (MovedTo j.ns) users users') := by
  intro laid
  have hlaid (hjob : o.kind ≠ .job) : laid = o.setDesired j image' :=
    setDesired_setDesired (setBody_setBody (by rwa [setPlace_kind]) hi j image image')
  refine ⟨hlaid, setDesired_setDesired (setBody_again _ hj image'), fun ho hkind => ?_⟩
  obtain ⟨users, husers⟩ := ho.exists_users hkind
  refine ⟨users, users.map (moveUser j.ns), husers, ?_, ?_⟩
  · rw [hlaid (by simp [hkind])]
    exact at?_users_setDesired hkind husers j image'
  · refine List.forall₂_map_right_iff.2 (List.forall₂_same.2 fun user _ => ?_)
    exact moveUser_movedTo j.ns user

theorem setDesired_overwrites_of_users :
    let o := Template.workerPolicy.setField "users" (.ofStrings
      ["system:serviceaccount:c:nfd-worker", "system:serviceaccount:c",
        "system:serviceaccount::a:b", "system:admin"])
    let i := Instance.bare ⟨"a", "nfd"⟩
    let j := Instance.bare ⟨"b", "other"⟩
    let laid := (o.setDesired i "x").setDesired j "y"
    ':' ∉ i.ns.toList ∧ ':' ∉ j.ns.toList ∧ o.WellFormed ∧
      laid = o.setDesired j "y" ∧ o.setDesired j "y" ≠ o.setDesired i "x" ∧
      (o.setDesired j "y").setDesired j "y" = o.setDesired j "y" ∧
      (∃ users users', o.at? ["users"] = some (.ofStrings users) ∧
        laid.at? ["users"] = some (.ofStrings users') ∧
        List.Forall₂ (MovedTo j.ns) users users') ∧
      laid.at? ["users"] = some (.ofStrings ["system:serviceaccount:b:nfd-worker",
        "system:serviceaccount:c", "system:serviceaccount:b:a:b", "system:admin"]) := by
  intro o i j laid
  have hi : ':' ∉ i.ns.toList := by decide
  have hj : ':' ∉ j.ns.toList := by decide
  have ho : o.WellFormed := by decide +kernel
  have hkind : o.kind = .securityContextConstraints := rfl
  obtain ⟨hlaid, htwice, husers⟩ := setDesired_overwrites o i j "x" "y" hi hj
  refine ⟨hi, hj, ho, hlaid (by simp [hkind]), ?_, htwice, husers ho hkind, ?_⟩
  · decide +kernel
  · decide +kernel

end ManagedObject

end NodeFeatureOperator
