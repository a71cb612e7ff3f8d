import FacetedSearch.Error
import FacetedSearch.Page

/-!
# Sections of a request

A request is compiled onto a seed that the caller may have filled in.  Each part of the
request is an object or an array under a key of its own, and what is compiled is added
to what is there.  If a seeded section is of the wrong shape the request is rejected, and
the rejection keeps what had been compiled until then.

## Main definitions

* `Rejection`: why a request cannot be compiled, with the draft;
* `Request.extendObject`, `Request.pushItem`: adding to an object or an array;
* `Request.uniteConditions`: adding conditions that must all hold;
* `allOf?`: one condition for several.
-/

namespace FacetedSearch

/-- Why a request cannot be compiled, and how far it had got. -/
structure Rejection where
  fault : ConfigurationFault
  draft : Request

/-- A rejection as an error of the operation that asked for the request. -/
def Rejection.error (rejection : Rejection) : SearchError := .configuration rejection.fault

namespace Request

/-- Writes members into the object under a key, which is empty if it is not there. -/
def extendObject (key : String) (members : Assoc Json) (request : Request) :
    Except Rejection Request :=
  match Assoc.get? key request with
  | none => .ok (Assoc.insert key (.obj (Assoc.extend [] members)) request)
  | some (.obj existing) => .ok (Assoc.insert key (.obj (Assoc.extend existing members)) request)
  | some _ => .error ⟨.notAnObject key, request⟩

/-- Appends an item to the array under a key, which is empty if it is not there. -/
def pushItem (key : String) (item : Json) (request : Request) : Except Rejection Request :=
  match Assoc.get? key request with
  | none => .ok (Assoc.insert key (.arr [item]) request)
  | some (.arr items) => .ok (Assoc.insert key (.arr (items ++ [item])) request)
  | some _ => .error ⟨.notAnArray key, request⟩

/-- Appends the conditions that are not yet in a list. -/
def addMissing (items conditions : List Json) : List Json :=
  conditions.foldl (fun acc condition =>
    if acc.any fun item => item.sameValue condition then acc else acc ++ [condition]) items

/-- Adds conditions to those that the filter section says must all hold. -/
def uniteConditions (conditions : List Json) (request : Request) : Except Rejection Request :=
  match (Assoc.get? "filter" request).getD (.obj []) with
  | .obj existing => match (Assoc.get? "and" existing).getD (.arr []) with
    | .arr items =>
      let united := Assoc.insert "and" (.arr (addMissing items conditions)) existing
      .ok (Assoc.insert "filter" (.obj united) request)
    | _ => .error ⟨.conditionsNotAnArray, request⟩
  | _ => .error ⟨.notAnObject "filter", request⟩

end Request

/-- The condition that all of several hold: none for none, and one alone stands for
itself. -/
def allOf? : List Json → Option Json
  | [] => none
  | [condition] => some condition
  | conditions => some (.single "and" (.arr conditions))

@[simp] theorem allOf?_nil : allOf? [] = none := rfl

@[simp] theorem allOf?_singleton (condition : Json) : allOf? [condition] = some condition := rfl

@[simp] theorem allOf?_cons_cons (first second : Json) (rest : List Json) :
    allOf? (first :: second :: rest) = some (.single "and" (.arr (first :: second :: rest))) := rfl

end FacetedSearch
