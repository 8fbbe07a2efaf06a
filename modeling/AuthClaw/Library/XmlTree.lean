import Mathlib.Data.List.Basic
import Mathlib.Data.String.Basic
import Mathlib.Tactic.Common

/-!
# XML trees

The element trees of {lit}`xml.etree.ElementTree`: a tag with its namespace, the attributes,
the text before the first child and the children.

Main results:

- Theorem {lit}`descendants_eq`: the elements under an element, in the order of the document.
- Theorem {lit}`findallDeep_eq`: what is found under an element, by its children.
-/

namespace XmlTree

/-- An element. -/
inductive Element where
  | mk (tag : String) (attrib : List (String × String)) (text : Option String)
      (children : List Element)

namespace Element

def tag : Element → String
  | mk tag _ _ _ => tag

def attrib : Element → List (String × String)
  | mk _ attrib _ _ => attrib

def text : Element → Option String
  | mk _ _ text _ => text

def children : Element → List Element
  | mk _ _ _ children => children

mutual

/-- The elements under an element. -/
def descendants : Element → List Element
  | mk _ _ _ children => preorder children

/-- Elements of a list, each followed by those under it. -/
def preorder : List Element → List Element
  | [] => []
  | e :: rest => e :: (descendants e ++ preorder rest)

end

/-- `element.attrib.get(key)` -/
def get (e : Element) (key : String) : Option String :=
  e.attrib.lookup key

/-- `element.find(tag)` -/
def find (e : Element) (tag : String) : Option Element :=
  e.children.find? (fun child => child.tag = tag)

/-- `element.findall(tag)` -/
def findall (e : Element) (tag : String) : List Element :=
  e.children.filter (fun child => child.tag = tag)

/-- `element.findall(".//tag")` -/
def findallDeep (e : Element) (tag : String) : List Element :=
  e.descendants.filter (fun child => child.tag = tag)

/-- `element.text or ""` -/
def textOrEmpty (e : Element) : String :=
  e.text.getD ""

theorem preorder_eq (es : List Element) :
    preorder es = es.flatMap (fun e => e :: e.descendants) := by
  induction es with
  | nil => rfl
  | cons e rest ih => rw [preorder, ih, List.flatMap_cons, List.cons_append]

/-- The elements under an element are its children, each followed by those under it. -/
theorem descendants_eq (e : Element) :
    e.descendants = e.children.flatMap (fun child => child :: child.descendants) := by
  cases e with
  | mk tag attrib text children => exact preorder_eq children

/-- What is found under an element, by its children. -/
theorem findallDeep_eq (e : Element) (tag : String) :
    e.findallDeep tag = e.children.flatMap (fun child =>
      (if child.tag = tag then [child] else []) ++ child.findallDeep tag) := by
  unfold findallDeep
  rw [descendants_eq, List.filter_flatMap]
  refine congrArg (fun f => e.children.flatMap f) (funext fun child => ?_)
  by_cases h : child.tag = tag
  · rw [List.filter_cons_of_pos (by simpa using h), if_pos h, List.singleton_append]
  · rw [List.filter_cons_of_neg (by simpa using h), if_neg h, List.nil_append]

end Element

end XmlTree
