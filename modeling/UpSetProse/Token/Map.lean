import UpSetProse.Analysis
import UpSetProse.Template.Expansion

/-!
# Token maps

A token map gives tokens their texts over one analysed plot. Names are registered once, and numbers
must be finite. An unknown name stands for itself in single braces, so that it is seen in the text.
-/

namespace UpSetProse

/-- What a token stands for. -/
inductive TokenValue where
  | text (text : String)
  | integer (value : Int)
  | number (value : Double)
  /-- A text that is produced from the plot whenever the token is resolved. -/
  | computed (produce : Analysis → String)
  /-- Such a text with a total in it, which is taken anew each time. -/
  | totalled (produce : Analysis → Except Overflow String)

namespace TokenValue

/-- The largest integer that is kept exactly. -/
def maxInteger : Nat := Int64.maxValue.toInt.toNat

/-- A natural number, brought down to the largest integer if it is above. -/
def ofNat (n : Nat) : TokenValue := .integer (Nat.min n maxInteger)

/-- The text of a value, unless a total in it overflows. -/
def evaluate (a : Analysis) : TokenValue → Except Overflow String
  | text t => .ok t
  | integer n => .ok (toString n)
  | number x => .ok (Text.figure x)
  | computed produce => .ok (produce a)
  | totalled produce => produce a

/-- The text that is shown for a value. -/
def render (a : Analysis) (value : TokenValue) : String := Overflow.shown (value.evaluate a)

/-- A number that no numeral can stand for. -/
def unrepresentable? : TokenValue → Option Double
  | number x => if x.isFinite then none else some x
  | _ => none

end TokenValue

/-- The tokens registered over one analysed plot. -/
structure TokenMap where
  analysis : Analysis
  values : NameTable TokenValue

namespace TokenMap

/-- A map without tokens. -/
def empty (analysis : Analysis) : TokenMap := ⟨analysis, .empty⟩

def contains (map : TokenMap) (name : String) : Bool := (map.values.get? name).isSome

def size (map : TokenMap) : Nat := map.values.entries.length

def isEmpty (map : TokenMap) : Bool := map.values.entries.isEmpty

/-- A call to add a token: what it answers, and the map that it leaves. A name is given a value only
once, and only a representable one. -/
def attempt (map : TokenMap) (name : String) (value : TokenValue) :
    Except TokenError Unit × TokenMap :=
  if map.contains name then (.error (.duplicate name), map)
  else
    match value.unrepresentable? with
    | some x => (.error (.invalidLiteral name x.toText), map)
    | none => (.ok (), { map with values := map.values.insert name value })

/-- The map with one more token, unless the call is refused. -/
def register (map : TokenMap) (name : String) (value : TokenValue) : Except TokenError TokenMap :=
  let (answer, next) := map.attempt name value
  answer.map fun _ => next

/-- The text of a token, unless a total in it overflows. -/
def evaluate (map : TokenMap) (name : String) : Except Overflow String :=
  match map.values.get? name with
  | some value => value.evaluate map.analysis
  | none => .ok ("\x7b" ++ name ++ "\x7d")

/-- The text that is shown for a token. -/
def resolve (map : TokenMap) (name : String) : String := Overflow.shown (map.evaluate name)

/-- Adds tokens in order up to the first that is refused. -/
def registerAll (map : TokenMap) (tokens : List (String × TokenValue)) :
    Except TokenError TokenMap :=
  tokens.foldlM (fun map token => map.register token.1 token.2) map

/-- The tokens as what symbols stand for in the second phase. -/
def substitution (map : TokenMap) : Substitution where
  replace := map.resolve
  size := map.size

end TokenMap
end UpSetProse
