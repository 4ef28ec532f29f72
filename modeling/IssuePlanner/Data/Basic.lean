import IssuePlanner.Number.Double

/-! Data whose shape is known only when it is read: what command line programs and models answer. A
`dict` holds entries, a `record` holds attributes; both keep the order in which keys were first written
(`keys_put`). -/

namespace IssuePlanner

inductive Datum where
  | null
  | bool (b : Bool)
  | int (i : Int)
  | float (x : Float)
  | text (s : String)
  | list (items : List Datum)
  | dict (entries : List (String × Datum))
  | record (attributes : List (String × Datum))
  deriving Inhabited

namespace Datum

def kind : Datum → String
  | null => "NoneType"
  | bool _ => "bool"
  | int _ => "int"
  | float _ => "float"
  | text _ => "str"
  | list _ => "list"
  | dict _ => "dict"
  | record _ => "Obj"

/-- Whether a value counts as present: not null, false, zero or empty. -/
def holds : Datum → Bool
  | null => false
  | bool b => b
  | int i => i != 0
  | float x => !(x == 0.0)
  | text s => s != ""
  | list xs => !xs.isEmpty
  | dict es => !es.isEmpty
  | record _ => true

def isNull : Datum → Bool
  | null => true
  | _ => false

def isText (s : String) : Datum → Bool
  | text t => t == s
  | _ => false

def ofOption : Option Datum → Datum
  | some d => d
  | none => null

end Datum

namespace Entries

variable {α : Type}

def get? (key : String) (es : List (String × α)) : Option α :=
  (es.find? (·.1 == key)).map (·.2)

/-- Writes an entry; a key that is already there keeps its place. -/
def put (key : String) (value : α) : List (String × α) → List (String × α)
  | [] => [(key, value)]
  | e :: es => if e.1 == key then (key, value) :: es else e :: put key value es

/-- Writes the entries of `new` one by one. -/
def putAll (es new : List (String × α)) : List (String × α) :=
  new.foldl (fun acc e => put e.1 e.2 acc) es

def keys (es : List (String × α)) : List String := es.map (·.1)

theorem keys_put (key : String) (value : α) (es : List (String × α)) :
    keys (put key value es) = if key ∈ keys es then keys es else keys es ++ [key] := by
  induction es with
  | nil => simp [put, keys]
  | cons e es ih =>
    by_cases h : e.1 = key
    · simp [put, keys, h]
    · have h' : key ≠ e.1 := fun hk => h hk.symm
      by_cases hm : key ∈ keys es <;> simp_all [put, keys]

theorem get?_put_self (key : String) (value : α) (es : List (String × α)) :
    get? key (put key value es) = some value := by
  induction es with
  | nil => simp [put, get?]
  | cons e es ih =>
    by_cases h : e.1 = key
    · simp [put, get?, h]
    · simp_all [put, get?]

end Entries

end IssuePlanner
