import FacetedSearch.Proofs.Fallible
import FacetedSearch.Proofs.Request.Section
import Mathlib.Data.List.Pairwise

/-!
# Steps that keep to their sections

A step on a request keeps to some keys if these are all that it changes and all that it looks
at.  The other sections are then left alone, whether or not the step is rejected, and two
requests with the same sections under these keys are rejected for the same reason or end up with
the same sections there again.  What such a step does can be told from these sections alone.

## Steps that do not meet

Steps that keep to keys of which no two have one in common do not notice each other.  The
sections that a step finds are those of the seed, whichever of the others went before.  So a run
of several of them is rejected exactly if one of them is rejected on the seed itself, and
otherwise each key has the section that its own step, taken alone, gives it
(`Request.Apart.exists_inTurn_iff`, `Request.Apart.get?_inTurn`).  The order does not come into
it.

Steps may have keys in common and still not disturb each other, if all that one looks at is the
shape of a section and all that the other leaves is a section of that shape.  Then it is again
the seed that decides, and the first step that is rejected by itself is the one that is reported
(`Request.fault?_inTurn`).

* `Request.AgreeOn`, `Request.SameOn`: the same sections, and the same outcome, under some keys;
* `Request.KeepsTo`: steps that keep to some keys;
* `Request.keepsTo_rewriteSection`: writing a section that is computed from the old one;
* `Request.KeepsTo.bind`, `Request.KeepsTo.foldlM`: one step after the other;
* `Request.Undisturbed`, `Request.fault?_inTurn`: which step is reported;
* `Request.Apart.exists_inTurn_iff`, `Request.Apart.get?_inTurn`: steps that do not meet.
-/

namespace FacetedSearch
namespace Request

/-- What a step leaves behind, whether or not it was rejected. -/
def leftBehind : Except Rejection Request → Request
  | .ok request => request
  | .error rejection => rejection.draft

/-- Why a step was rejected, if it was. -/
def fault? : Except Rejection Request → Option ConfigurationFault
  | .ok _ => none
  | .error rejection => some rejection.fault

/-- Two requests have the same sections under some keys. -/
def AgreeOn (keys : List String) (a b : Request) : Prop :=
  ∀ key ∈ keys, Assoc.get? key a = Assoc.get? key b

/-- Two steps were rejected for the same reason or not at all, and left the same sections behind
under some keys. -/
structure SameOn (keys : List String) (a b : Except Rejection Request) : Prop where
  fault : fault? a = fault? b
  sections : AgreeOn keys (leftBehind a) (leftBehind b)

/-- A step changes at most the sections under some keys, and looks at no others. -/
structure KeepsTo (keys : List String) (step : Request → Except Rejection Request) : Prop where
  frame : ∀ request key, key ∉ keys →
    Assoc.get? key (leftBehind (step request)) = Assoc.get? key request
  reads : ∀ a b, AgreeOn keys a b → SameOn keys (step a) (step b)

variable {keys more : List String} {key : String} {a b request next : Request}
  {step then' : Request → Except Rejection Request}

/-- A step that was not rejected is one that gives no reason. -/
theorem exists_eq_ok_iff {outcome : Except Rejection Request} :
    (∃ next, outcome = .ok next) ↔ fault? outcome = none := by
  cases outcome with
  | ok next => exact ⟨fun _ => rfl, fun _ => ⟨next, rfl⟩⟩
  | error rejection =>
    constructor
    · rintro ⟨next, h⟩
      cases h
    · intro h
      cases h

namespace KeepsTo

/-- What was not rejected left every other section as it was. -/
theorem get?_of_ok (h : KeepsTo keys step) (hstep : step request = .ok next) (hkey : key ∉ keys) :
    Assoc.get? key next = Assoc.get? key request := by
  have hframe := h.frame request key hkey
  rw [hstep] at hframe
  exact hframe

theorem ok : KeepsTo keys .ok where
  frame _ _ _ := rfl
  reads _ _ h := ⟨rfl, h⟩

/-- Keeping to some keys is keeping to more. -/
theorem mono (h : KeepsTo keys step) (hmore : keys ⊆ more) : KeepsTo more step where
  frame request key hkey := h.frame request key fun hmem => hkey (hmore hmem)
  reads a b hab := by
    obtain ⟨hfault, hsections⟩ := h.reads a b fun key hkey => hab key (hmore hkey)
    refine ⟨hfault, fun key hkey => ?_⟩
    by_cases hmem : key ∈ keys
    · exact hsections key hmem
    · rw [h.frame a key hmem, h.frame b key hmem, hab key hkey]

theorem bind (h : KeepsTo keys step) (hthen : KeepsTo keys then') :
    KeepsTo keys fun request => (step request).bind then' where
  frame request key hkey := by
    have hframe := h.frame request key hkey
    cases hstep : step request with
    | error rejection =>
      rw [hstep] at hframe
      exact hframe
    | ok next =>
      rw [hstep] at hframe
      exact (hthen.frame next key hkey).trans hframe
  reads a b hab := by
    have hsame := h.reads a b hab
    cases ha : step a with
    | error rejection =>
      cases hb : step b with
      | error other =>
        rw [ha, hb] at hsame
        exact ⟨hsame.fault, hsame.sections⟩
      | ok next =>
        rw [ha, hb] at hsame
        cases hsame.fault
    | ok next =>
      cases hb : step b with
      | error other =>
        rw [ha, hb] at hsame
        cases hsame.fault
      | ok other =>
        rw [ha, hb] at hsame
        exact hthen.reads next other hsame.sections

theorem foldlM {ι : Type} {steps : Request → ι → Except Rejection Request}
    (h : ∀ item, KeepsTo keys fun request => steps request item) (items : List ι) :
    KeepsTo keys fun request => items.foldlM steps request := by
  induction items with
  | nil => exact ok
  | cons item rest ih => exact (h item).bind ih

end KeepsTo

/-! ## Writing one section -/

/-- Writes the section of a key anew, as it is computed from the old one. -/
def rewriteSection (key : String) (rewrite : Option Json → Except ConfigurationFault Json)
    (request : Request) : Except Rejection Request :=
  match rewrite (Assoc.get? key request) with
  | .ok written => .ok (Assoc.insert key written request)
  | .error fault => .error ⟨fault, request⟩

theorem keepsTo_rewriteSection (key : String)
    (rewrite : Option Json → Except ConfigurationFault Json) :
    KeepsTo [key] (rewriteSection key rewrite) where
  frame request other hother := by
    unfold rewriteSection
    cases rewrite (Assoc.get? key request) with
    | ok written => exact Assoc.get?_insert_of_ne _ _ (List.ne_of_not_mem_cons hother)
    | error fault => rfl
  reads a b hab := by
    have hsection : Assoc.get? key a = Assoc.get? key b := hab key List.mem_cons_self
    unfold rewriteSection
    rw [hsection]
    cases rewrite (Assoc.get? key b) with
    | ok written =>
      refine ⟨rfl, fun other hother => ?_⟩
      obtain rfl := List.mem_singleton.1 hother
      exact (Assoc.get?_insert_self _ _ _).trans (Assoc.get?_insert_self _ _ _).symm
    | error fault => exact ⟨rfl, hab⟩

theorem keepsTo_insert (key : String) (document : Json) :
    KeepsTo [key] fun request => .ok (Assoc.insert key document request) :=
  keepsTo_rewriteSection key fun _ => .ok document

/-- What becomes of a section when members are written into it. -/
def extendedSection (key : String) (members : Assoc Json) :
    Option Json → Except ConfigurationFault Json
  | none => .ok (.obj (Assoc.extend [] members))
  | some (.obj existing) => .ok (.obj (Assoc.extend existing members))
  | some _ => .error (.notAnObject key)

theorem extendObject_eq_rewriteSection (key : String) (members : Assoc Json) :
    extendObject key members = rewriteSection key (extendedSection key members) := by
  funext request
  unfold extendObject rewriteSection extendedSection
  cases Assoc.get? key request with
  | none => rfl
  | some document => cases document <;> rfl

theorem keepsTo_extendObject (key : String) (members : Assoc Json) :
    KeepsTo [key] (extendObject key members) := by
  rw [extendObject_eq_rewriteSection]
  exact keepsTo_rewriteSection key _

/-- What becomes of a section when an item is appended to it. -/
def pushedSection (key : String) (item : Json) : Option Json → Except ConfigurationFault Json
  | none => .ok (.arr [item])
  | some (.arr items) => .ok (.arr (items ++ [item]))
  | some _ => .error (.notAnArray key)

theorem pushItem_eq_rewriteSection (key : String) (item : Json) :
    pushItem key item = rewriteSection key (pushedSection key item) := by
  funext request
  unfold pushItem rewriteSection pushedSection
  cases Assoc.get? key request with
  | none => rfl
  | some document => cases document <;> rfl

theorem keepsTo_pushItem (key : String) (item : Json) : KeepsTo [key] (pushItem key item) := by
  rw [pushItem_eq_rewriteSection]
  exact keepsTo_rewriteSection key _

/-- What becomes of the filter section when conditions are added to those that must all hold. -/
def unitedSection (conditions : List Json) (document : Option Json) :
    Except ConfigurationFault Json :=
  match document.getD (.obj []) with
  | .obj existing => match (Assoc.get? "and" existing).getD (.arr []) with
    | .arr items => .ok (.obj (Assoc.insert "and" (.arr (addMissing items conditions)) existing))
    | _ => .error .conditionsNotAnArray
  | _ => .error (.notAnObject "filter")

theorem uniteConditions_eq_rewriteSection (conditions : List Json) :
    uniteConditions conditions = rewriteSection "filter" (unitedSection conditions) := by
  funext request
  unfold uniteConditions rewriteSection unitedSection
  cases (Assoc.get? "filter" request).getD (.obj []) with
  | obj existing =>
    dsimp only
    cases (Assoc.get? "and" existing).getD (.arr []) <;> rfl
  | null | bool _ | int _ | float _ | str _ | arr _ => rfl

theorem keepsTo_uniteConditions (conditions : List Json) :
    KeepsTo ["filter"] (uniteConditions conditions) := by
  rw [uniteConditions_eq_rewriteSection]
  exact keepsTo_rewriteSection "filter" _

/-! ## Steps that do not meet -/

/-- Takes several steps, one after the other. -/
def inTurn {ι : Type} (steps : ι → Request → Except Rejection Request) (order : List ι)
    (seed : Request) : Except Rejection Request :=
  order.foldlM (fun request item => steps item request) seed

section InTurn

variable {ι : Type} {steps : ι → Request → Except Rejection Request}

theorem inTurn_cons (item : ι) (rest : List ι) (seed : Request) :
    inTurn steps (item :: rest) seed = (steps item seed).bind (inTurn steps rest) := rfl

theorem inTurn_append (front back : List ι) (seed : Request) :
    inTurn steps (front ++ back) seed = (inTurn steps front seed).bind (inTurn steps back) :=
  List.foldlM_append

theorem inTurn_singleton (steps : ι → Request → Except Rejection Request) (item : ι)
    (seed : Request) : inTurn steps [item] seed = steps item seed := bind_pure (steps item seed)

/-- Steps that come in groups are taken group by group. -/
theorem inTurn_flatMap {κ : Type} (group : κ → List ι) (items : List κ) (seed : Request) :
    inTurn steps (items.flatMap group) seed =
      items.foldlM (fun request item => inTurn steps (group item) request) seed := by
  induction items generalizing seed with
  | nil => rfl
  | cons item rest ih =>
    rw [List.flatMap_cons, inTurn_append, List.foldlM_cons]
    exact congrArg _ (funext ih)

/-- Whether a step is rejected, and for what, does not depend on another one before it. -/
def Undisturbed (before step : Request → Except Rejection Request) : Prop :=
  ∀ request next, before request = .ok next → fault? (step next) = fault? (step request)

/-- Steps that keep to different keys do not notice each other. -/
theorem KeepsTo.undisturbed (h : KeepsTo keys step) (h' : KeepsTo more then')
    (hdisjoint : keys.Disjoint more) : Undisturbed step then' := by
  intro request next hstep
  refine (h'.reads next request fun key hkey => ?_).fault
  exact h.get?_of_ok hstep fun hmem => hdisjoint hmem hkey

/-- **Steps in turn are rejected for the first of them that is rejected by itself**, as long as
none is disturbed by those before it. -/
theorem fault?_inTurn {order : List ι}
    (h : order.Pairwise fun item later => Undisturbed (steps item) (steps later))
    (seed : Request) :
    fault? (inTurn steps order seed) = order.findSome? fun item => fault? (steps item seed) := by
  induction order generalizing seed with
  | nil => rfl
  | cons item rest ih =>
    obtain ⟨hitem, hrest⟩ := List.pairwise_cons.1 h
    rw [inTurn_cons, List.findSome?_cons]
    cases hstep : steps item seed with
    | error rejection => rfl
    | ok next =>
      have hsame : ∀ later ∈ rest, fault? (steps later next) = fault? (steps later seed) :=
        fun later hlater => hitem later hlater seed next hstep
      refine (ih hrest next).trans ?_
      rw [← List.head?_filterMap, ← List.head?_filterMap, List.filterMap_congr hsame]
      rfl

end InTurn

/-- Each of several steps keeps to keys of its own, and no two have one in common. -/
structure Apart {ι : Type} (keysOf : ι → List String)
    (steps : ι → Request → Except Rejection Request) : Prop where
  keeps : ∀ item, KeepsTo (keysOf item) (steps item)
  disjoint : ∀ item other, item ≠ other → (keysOf item).Disjoint (keysOf other)

namespace Apart

variable {ι : Type} {keysOf : ι → List String} {steps : ι → Request → Except Rejection Request}
  {seed final : Request}

/-- A step does not notice that another one went before. -/
theorem sameOn (h : Apart keysOf steps) {item other : ι} (hne : item ≠ other)
    (hstep : steps item seed = .ok next) :
    SameOn (keysOf other) (steps other next) (steps other seed) :=
  (h.keeps other).reads next seed fun _ hkey =>
    (h.keeps item).get?_of_ok hstep fun hitem => h.disjoint item other hne hitem hkey

theorem pairwise_undisturbed (h : Apart keysOf steps) {order : List ι} (honce : order.Nodup) :
    order.Pairwise fun item later => Undisturbed (steps item) (steps later) :=
  honce.imp fun hne => (h.keeps _).undisturbed (h.keeps _) (h.disjoint _ _ hne)

/-- **Several steps succeed one after the other exactly if each does on the seed.** -/
theorem exists_inTurn_iff (h : Apart keysOf steps) {order : List ι} (honce : order.Nodup) :
    (∃ final, inTurn steps order seed = .ok final) ↔
      ∀ item ∈ order, ∃ next, steps item seed = .ok next := by
  rw [exists_eq_ok_iff, fault?_inTurn (h.pairwise_undisturbed honce), List.findSome?_eq_none_iff]
  exact forall₂_congr fun item _ => exists_eq_ok_iff.symm

/-- **Each key has in the end what its own step alone gives it.** -/
theorem get?_inTurn (h : Apart keysOf steps) {order : List ι} (honce : order.Nodup)
    (hfinal : inTurn steps order seed = .ok final) :
    (∀ item ∈ order, AgreeOn (keysOf item) final (leftBehind (steps item seed))) ∧
      ∀ key, (∀ item ∈ order, key ∉ keysOf item) → Assoc.get? key final = Assoc.get? key seed := by
  induction order generalizing seed with
  | nil =>
    obtain rfl : seed = final := Except.ok.inj hfinal
    exact ⟨fun _ hmem => absurd hmem List.not_mem_nil, fun _ _ => rfl⟩
  | cons item rest ih =>
    obtain ⟨hitem, hrest⟩ := List.nodup_cons.1 honce
    rw [inTurn_cons] at hfinal
    obtain ⟨next, hstep, hlast⟩ := Fallible.bind_eq_ok_iff.1 hfinal
    obtain ⟨hown, hkept⟩ := ih hrest hlast
    rw [List.forall_mem_cons]
    refine ⟨⟨fun key hkey => ?_, fun other hother key hkey => ?_⟩, fun key hkey => ?_⟩
    · rw [hstep]
      exact hkept key fun other hother hmem =>
        h.disjoint item other (fun heq => hitem (heq ▸ hother)) hkey hmem
    · have hne : item ≠ other := fun heq => hitem (heq ▸ hother)
      rw [hown other hother key hkey, (h.sameOn hne hstep).sections key hkey]
    · rw [List.forall_mem_cons] at hkey
      rw [hkept key hkey.2, (h.keeps item).get?_of_ok hstep hkey.1]

end Apart
end Request
end FacetedSearch
