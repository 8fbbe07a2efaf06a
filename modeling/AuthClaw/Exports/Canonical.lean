import AuthClaw.Library.JsonText
import AuthClaw.Library.PythonText

/-!
# The canonical text of a document

{lit}`_canonical_json_bytes` writes a document with sorted keys, without spaces and in
ASCII; the bytes are what is hashed and signed.

Two writings of one shape are compared side by side: where each part of the one is
aligned with the same part of the other, the texts differ only if a part does.

Main results:

- Theorem {lit}`joinWith_aligned`: a list of aligned parts is aligned.
- Theorem {lit}`writeObject_aligned`: objects with the same keys are aligned when their
  values are.
- Theorem {lit}`utf8Bytes_injective`: the bytes determine the text.
-/

namespace AuthClaw.Exports

open PythonText JsonText

/-! ## The writer -/

/-- `separator.join(parts)`. -/
def joinWith (separator : Char) : List (List Char) → List Char
  | [] => []
  | [part] => part
  | part :: rest => part ++ separator :: joinWith separator rest

/-- The members in the order of their keys. -/
def sortMembers {α : Type} (members : List (String × α)) : List (String × α) :=
  members.insertionSort (fun a b => a.1 ≤ b.1)

/-- The text of an object, from the texts of its values. -/
def writeObject (members : List (String × List Char)) : List Char :=
  '{' :: joinWith ',' ((sortMembers members).map (fun m => encodeString m.1 ++ ':' :: m.2)) ++ ['}']

mutual

/-- `json.dumps(value, sort_keys=True, separators=(",", ":"))`. -/
def write : Json → List Char
  | .null => "null".toList
  | .bool true => "true".toList
  | .bool false => "false".toList
  | .int n => n.repr.toList
  | .float text _ => text.toList
  | .str s => encodeString s
  | .arr items => '[' :: joinWith ',' (writeItems items) ++ [']']
  | .obj members => writeObject (writeMembers members)

/-- The texts of the items of an array. -/
def writeItems : List Json → List (List Char)
  | [] => []
  | item :: rest => write item :: writeItems rest

/-- The texts of the values of an object. -/
def writeMembers : List (String × Json) → List (String × List Char)
  | [] => []
  | (key, value) :: rest => (key, write value) :: writeMembers rest

end

/-- `text.encode("utf-8")`. -/
def utf8Bytes (text : List Char) : List UInt8 :=
  (String.ofList text).toByteArray.data.toList

/-- `_canonical_json_bytes` of a JSON document. -/
def canonicalJsonBytes (value : Json) : List UInt8 :=
  utf8Bytes (write value)

theorem writeItems_eq (items : List Json) : writeItems items = items.map write := by
  induction items with
  | nil => rfl
  | cons item rest ih => rw [writeItems, ih, List.map_cons]

theorem writeMembers_eq (members : List (String × Json)) :
    writeMembers members = members.map (fun m => (m.1, write m.2)) := by
  induction members with
  | nil => rfl
  | cons m rest ih => rw [writeMembers, ih, List.map_cons]

/-- The bytes determine the text. -/
theorem utf8Bytes_injective : Function.Injective utf8Bytes := by
  intro a b h
  have hdata := Array.toList_inj.mp h
  have hbytes : (String.ofList a).toByteArray = (String.ofList b).toByteArray :=
    ByteArray.ext hdata
  exact String.ofList_injective (String.toByteArray_inj.mp hbytes)

/-! ## Documents -/

/-- A point in time: its date, and its time with an offset if it has one. -/
structure Timestamp where
  date : String
  time : String

/-- `str(t)`. -/
def Timestamp.text (t : Timestamp) : String :=
  t.date ++ " " ++ t.time

/-- `t.isoformat()`. -/
def Timestamp.isoformat (t : Timestamp) : String :=
  t.date ++ "T" ++ t.time

/-- The text of a number in JSON. -/
structure NumberText where
  text : String
  zero : Bool
  numeric : ∃ c rest, text.toList = c :: rest ∧ c ≠ '"'

/-- The values of a document before it is written: JSON, points in time, and decimals
with their `str` and the number they are encoded as. -/
inductive PyValue where
  | null
  | bool (b : Bool)
  | int (n : Int)
  | float (text : String) (zero : Bool)
  | str (s : String)
  | arr (items : List PyValue)
  | obj (members : List (String × PyValue))
  | datetime (t : Timestamp)
  | decimal (text : String) (encoded : NumberText)

mutual

/-- The document as `json.dumps` writes it with `default=str`. -/
def jsonDefault : PyValue → Json
  | .null => .null
  | .bool b => .bool b
  | .int n => .int n
  | .float text zero => .float text zero
  | .str s => .str s
  | .arr items => .arr (jsonDefaultItems items)
  | .obj members => .obj (jsonDefaultMembers members)
  | .datetime t => .str t.text
  | .decimal text _ => .str text

def jsonDefaultItems : List PyValue → List Json
  | [] => []
  | item :: rest => jsonDefault item :: jsonDefaultItems rest

def jsonDefaultMembers : List (String × PyValue) → List (String × Json)
  | [] => []
  | (key, value) :: rest => (key, jsonDefault value) :: jsonDefaultMembers rest

end

/-- `_canonical_json_bytes`. -/
def canonicalBytes (document : PyValue) : List UInt8 :=
  canonicalJsonBytes (jsonDefault document)

theorem jsonDefaultItems_eq (items : List PyValue) :
    jsonDefaultItems items = items.map jsonDefault := by
  induction items with
  | nil => rfl
  | cons item rest ih => rw [jsonDefaultItems, ih, List.map_cons]

theorem jsonDefaultMembers_eq (members : List (String × PyValue)) :
    jsonDefaultMembers members = members.map (fun m => (m.1, jsonDefault m.2)) := by
  induction members with
  | nil => rfl
  | cons m rest ih => rw [jsonDefaultMembers, ih, List.map_cons]

/-! ## Writings side by side -/

/-- Whenever the two texts agree with what follows them, the property holds and the same
follows. -/
def Aligned (x y : List Char) (property : Prop) : Prop :=
  ∀ r r', x ++ r = y ++ r' → property ∧ r = r'

theorem aligned_self {x : List Char} {property : Prop} (h : property) : Aligned x x property := by
  intro r r' heq
  exact ⟨h, List.append_cancel_left heq⟩

theorem Aligned.imp {x y : List Char} {p q : Prop} (h : Aligned x y p) (hpq : p → q) :
    Aligned x y q := by
  intro r r' heq
  rcases h r r' heq with ⟨hp, hrest⟩
  exact ⟨hpq hp, hrest⟩

/-- One text after the other. -/
theorem Aligned.append {x y x' y' : List Char} {p q : Prop} (h : Aligned x y p)
    (h' : Aligned x' y' q) : Aligned (x ++ x') (y ++ y') (p ∧ q) := by
  intro r r' heq
  rw [List.append_assoc, List.append_assoc] at heq
  rcases h _ _ heq with ⟨hp, hrest⟩
  rcases h' _ _ hrest with ⟨hq, hrest'⟩
  exact ⟨⟨hp, hq⟩, hrest'⟩

/-- Different strings are not aligned with anything. -/
theorem encodeString_aligned (s t : String) :
    Aligned (encodeString s) (encodeString t) (s = t) := by
  intro r r' heq
  exact encodeString_append_inj heq

/-- A list of aligned parts is aligned. -/
theorem joinWith_aligned {α : Type} (separator : Char) {f g : α → List Char} {p : α → Prop}
    {items : List α} (h : ∀ a ∈ items, Aligned (f a) (g a) (p a)) :
    Aligned (joinWith separator (items.map f)) (joinWith separator (items.map g))
      (∀ a ∈ items, p a) := by
  induction items with
  | nil => exact aligned_self (by simp)
  | cons a rest ih =>
      have hrest := ih (fun b hb => h b (List.mem_cons_of_mem _ hb))
      have hhead := h a (by simp)
      cases rest with
      | nil => exact hhead.imp (by simp)
      | cons b rest =>
          have hseparator : Aligned [separator] [separator] True := aligned_self trivial
          have hall := hhead.append (hseparator.append hrest)
          refine Aligned.imp hall ?_
          rintro ⟨hp, -, hps⟩
          exact List.forall_mem_cons.mpr ⟨hp, hps⟩

/-- Sorting does not look at the values. -/
theorem sortMembers_map {α β : Type} (f : α → β) (members : List (String × α)) :
    sortMembers (members.map (fun m => (m.1, f m.2))) =
      (sortMembers members).map (fun m => (m.1, f m.2)) := by
  unfold sortMembers
  symm
  apply List.map_insertionSort
  intro a _ b _
  rfl

/-- Objects with the same keys are aligned when their values are. -/
theorem writeObject_aligned {α : Type} {f g : α → List Char} {p : α → Prop}
    {members : List (String × α)} (h : ∀ m ∈ members, Aligned (f m.2) (g m.2) (p m.2)) :
    Aligned (writeObject (members.map (fun m => (m.1, f m.2))))
      (writeObject (members.map (fun m => (m.1, g m.2)))) (∀ m ∈ members, p m.2) := by
  unfold writeObject
  rw [sortMembers_map, sortMembers_map, List.map_map, List.map_map]
  have hparts : ∀ m ∈ sortMembers members,
      Aligned (encodeString m.1 ++ ':' :: f m.2) (encodeString m.1 ++ ':' :: g m.2) (p m.2) := by
    intro m hm
    have hmem : m ∈ members := (List.mem_insertionSort _).mp hm
    have hkey : Aligned (encodeString m.1 ++ [':']) (encodeString m.1 ++ [':']) True :=
      aligned_self trivial
    have hall := (hkey.append (h m hmem)).imp (fun hp => hp.2)
    rw [List.append_assoc, List.append_assoc] at hall
    exact hall
  have hopen : Aligned ['{'] ['{'] True := aligned_self trivial
  have hclose : Aligned ['}'] ['}'] True := aligned_self trivial
  have hall := hopen.append ((joinWith_aligned ',' hparts).append hclose)
  refine Aligned.imp hall ?_
  rintro ⟨-, hp, -⟩ m hm
  exact hp m ((List.mem_insertionSort _).mpr hm)

end AuthClaw.Exports
