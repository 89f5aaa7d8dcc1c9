import Reactive.Value
import Reactive.Script.Expr
import Reactive.Text.Case

/-!
Evaluation of expressions and execution of handler bodies against a store of named values.

Names are looked up among lambda parameters first (the innermost binding wins), then in the
store; an unbound name is `undefined`. When `Math` is unbound, `Math.PI`, `Math.E` and the
functions `Math.max`, `Math.min`, `abs`, `floor`, `ceil`, `round`, `trunc`, `sign`, `sqrt` and
`pow` are available; when `console` is unbound its methods do nothing. The global functions
are `String`, `Number`, `Boolean`, `isNaN`, `parseFloat` and `parseInt`. Strings have `length`,
`toUpperCase`, `toLowerCase`, `trim`, `includes`, `startsWith` and `endsWith`; numbers have
`toFixed`; arrays have `length`, `join`, `includes`, `indexOf`, and `map`, `filter`, `some` and
`every`, which take a lambda written in place. Every value has `toString`. Anything else reads
as `undefined`.

Evaluation has no effects, so it is a plain function. Execution of a handler body threads the
store through its statements and collects the names it requests updates for.
-/

namespace Reactive

open Script

/-- Named values, in order of first binding; binding a bound name replaces its value. -/
structure Store where
  entries : List (String × Value)
  deriving Inhabited

namespace Store

/-- The empty store. -/
def empty : Store := ⟨[]⟩

/-- The value bound to a name. -/
def get? (s : Store) (n : String) : Option Value :=
  (s.entries.find? (fun p => p.1 == n)).map (·.2)

/-- Whether a name is bound. -/
def contains (s : Store) (n : String) : Bool :=
  s.entries.any (fun p => p.1 == n)

/-- Binds a name, replacing its value in place when it is already bound. -/
def set (s : Store) (n : String) (v : Value) : Store :=
  if s.contains n then ⟨s.entries.map fun p => if p.1 == n then (n, v) else p⟩
  else ⟨s.entries ++ [(n, v)]⟩

end Store

namespace Eval

open Value

/-- The double nearest to pi. -/
def pi : Float := Float.ofBits 0x400921FB54442D18
/-- The double nearest to Euler's number. -/
def euler : Float := Float.ofBits 0x4005BF0A8B145769

/-- The exact natural number a double stands for, if it is a non-negative whole number. -/
def wholeNat? (x : Float) : Option Nat :=
  match Number.Binary.ofFloat x with
  | .finite neg m e =>
    if neg && m != 0 then none
    else if 0 ≤ e then some (m * Nat.pow 2 e.toNat)
    else if m % Nat.pow 2 (-e).toNat == 0 then some (m / Nat.pow 2 (-e).toNat)
    else none
  | _ => none

/-- A double converted to a 32-bit count, saturating: not-a-number and negatives give zero, and
the rest is truncated toward zero. -/
def saturatingCount (x : Float) : Nat :=
  if x.isNaN || x ≤ 0.0 then 0
  else if x ≥ 4294967296.0 then 4294967295
  else Number.truncMagnitude x

/-- Result of a binary operator. `+` joins strings when either side is a string or an array. -/
def binaryValue (op : BinaryOp) (l r : Value) : Value :=
  match op with
  | .add =>
    match l, r with
    | .str _, _ | .array _, _ | _, .str _ | _, .array _ => .str (l.toText ++ r.toText)
    | _, _ => .number (l.toNumber + r.toNumber)
  | .sub => .number (l.toNumber - r.toNumber)
  | .mul => .number (l.toNumber * r.toNumber)
  | .div => .number (l.toNumber / r.toNumber)
  | .rem => .number (Number.remainder l.toNumber r.toNumber)
  | .exp => .number (Float.pow l.toNumber r.toNumber)
  | .eq => .bool (looseEq l r)
  | .notEq => .bool (!looseEq l r)
  | .strictEq => .bool (strictEq l r)
  | .strictNotEq => .bool (!strictEq l r)
  | .lt => .bool (compare l r == some .lt)
  | .ltEq => .bool (compare l r == some .lt || compare l r == some .eq)
  | .gt => .bool (compare l r == some .gt)
  | .gtEq => .bool (compare l r == some .gt || compare l r == some .eq)

/-- Result of a prefix operator. -/
def unaryValue (op : UnaryOp) (v : Value) : Value :=
  match op with
  | .neg => .number (-v.toNumber)
  | .plus => .number v.toNumber
  | .not => .bool (!v.truthy)
  | .typeOf => .str v.typeName

/-- A property of `Math`. -/
def mathConstant (name : String) : Value :=
  if name == "PI" then .number pi
  else if name == "E" then .number euler
  else .undefined

/-- The larger of two doubles; not-a-number wins, and of two equal ones (zeros of either sign
included) the second is taken. -/
def maxStep (acc x : Float) : Float :=
  if acc.isNaN || x.isNaN then Number.notANumber else if acc > x then acc else x

/-- The smaller of two doubles; not-a-number wins, and of two equal ones (zeros of either sign
included) the second is taken. -/
def minStep (acc x : Float) : Float :=
  if acc.isNaN || x.isNaN then Number.notANumber else if acc < x then acc else x

/-- The sign of a double: itself for zeros and not-a-number. -/
def signOf (x : Float) : Float :=
  if x.isNaN || x == 0.0 then x else if x > 0.0 then 1.0 else -1.0

/-- A function of `Math`, on the numbers of its arguments. -/
def mathFunction (name : String) (args : List Value) : Value :=
  let nums := args.map toNumber
  let first := nums.head?.getD Number.notANumber
  if name == "max" then .number (nums.foldl maxStep (Number.signedInfinity true))
  else if name == "min" then .number (nums.foldl minStep (Number.signedInfinity false))
  else if name == "abs" then .number first.abs
  else if name == "floor" then .number first.floor
  else if name == "ceil" then .number first.ceil
  else if name == "round" then .number (first + 0.5).floor
  else if name == "trunc" then .number (Number.truncate first)
  else if name == "sign" then .number (signOf first)
  else if name == "sqrt" then .number first.sqrt
  else if name == "pow" then .number (Float.pow first (nums[1]?.getD Number.notANumber))
  else .undefined

/-- The radix `parseInt` reads in, given its second argument: ten when there is none or when its
number is not-a-number or a zero, and otherwise that number as a saturating 32-bit count. -/
def parseIntRadix : Option Value → Nat
  | some r =>
    let x := r.toNumber
    if x.isNaN || x == 0.0 then 10 else saturatingCount x
  | none => 10

/-- A global function applied to its arguments. -/
def globalFunction (name : String) (args : List Value) : Value :=
  let first := args.head?.getD .undefined
  if name == "String" then .str (if args.isEmpty then "" else first.toText)
  else if name == "Number" then .number (if args.isEmpty then 0.0 else first.toNumber)
  else if name == "Boolean" then .bool first.truthy
  else if name == "isNaN" then .bool first.toNumber.isNaN
  else if name == "parseFloat" then .number (Number.readFloatPrefix (Text.trimStart first.toText))
  else if name == "parseInt" then
    .number (Number.readIntPrefix (Text.trimStart first.toText) (parseIntRadix args[1]?))
  else .undefined

/-- Whether `pat` occurs in `cs`. -/
def hasInfix (pat : List Char) : List Char → Bool
  | [] => pat.isEmpty
  | c :: cs => pat.isPrefixOf (c :: cs) || hasInfix pat cs

/-- A property of a value: only `length`, of strings (in UTF-16 units) and arrays. -/
def memberValue (target : Value) (prop : String) : Value :=
  match target with
  | .str s => if prop == "length" then .number (Number.ofNatNearest (Text.utf16Length s)) else .undefined
  | .array items => if prop == "length" then .number (Number.ofNatNearest items.length) else .undefined
  | _ => .undefined

/-- The element of a string or array at a key that is a non-negative whole number. -/
def indexValue (target key : Value) : Value :=
  match target with
  | .array items =>
    match wholeNat? key.toNumber with
    | some n => items[n]?.getD .undefined
    | none => .undefined
  | .str s =>
    match wholeNat? key.toNumber with
    | some n => match s.toList[n]? with
      | some c => .str c.toString
      | none => .undefined
    | none => .undefined
  | _ => .undefined

/-- Whether array equality for `includes` holds: strict, but not-a-number equals itself. -/
def includesEq (v needle : Value) : Bool :=
  match v, needle with
  | .number a, .number b => a == b || (a.isNaN && b.isNaN)
  | _, _ => strictEq v needle

/-- The position of the first item strictly equal to `needle`. -/
def positionOf (needle : Value) : List Value → Nat → Option Nat
  | [], _ => none
  | v :: rest, i => if strictEq v needle then some i else positionOf needle rest (i + 1)

/-- A method applied to a receiver and its evaluated arguments. -/
def methodValue (receiver : Value) (m : String) (args : List Value) : Value :=
  let argText := (args.head?.map toText).getD ""
  if m == "toString" then .str receiver.toText
  else match receiver with
  | .str s =>
    if m == "toUpperCase" then .str (Text.toUpperFull s)
    else if m == "toLowerCase" then .str (Text.toLowerFull s)
    else if m == "trim" then .str (Text.trimBoth s)
    else if m == "includes" then .bool (hasInfix argText.toList s.toList)
    else if m == "startsWith" then .bool (s.startsWith argText)
    else if m == "endsWith" then .bool (s.endsWith argText)
    else .undefined
  | .number x =>
    if m == "toFixed" then
      let d := (args.head?.map toNumber).getD 0.0
      let places := if d.isNaN then 0 else if d ≤ 0.0 then 0 else if d ≥ 100.0 then 100
        else (wholeNat? (Number.truncate d)).getD 0
      .str (Number.fixedText x places)
    else .undefined
  | .array items =>
    if m == "join" then
      let sep := match args.head? with
        | none | some .undefined => ","
        | some v => v.toText
      .str (sep.intercalate (elementTexts items))
    else if m == "includes" then
      let needle := args.head?.getD .undefined
      .bool (items.any fun v => includesEq v needle)
    else if m == "indexOf" then
      let needle := args.head?.getD .undefined
      match positionOf needle items 0 with
      | some i => .number (Number.ofNatNearest i)
      | none => .number (-1.0)
    else .undefined
  | _ => .undefined

/-- Whether a method takes a lambda and runs it over an array's items. -/
def isIterating (m : String) : Bool :=
  m == "map" || m == "filter" || m == "some" || m == "every"

/-- Runs an iterating method, given the lambda's result for each item and its index. -/
def iterate (m : String) (items : List Value) (f : Value → Nat → Value) : Value :=
  let results := (List.range items.length).zip items |>.map fun (i, it) => (it, f it i)
  if m == "map" then .array (results.map (·.2))
  else if m == "filter" then .array ((results.filter (·.2.truthy)).map (·.1))
  else if m == "some" then .bool (results.any (·.2.truthy))
  else .bool (results.all (·.2.truthy))

/-- Binds lambda parameters to arguments, innermost first; missing arguments are `undefined`. -/
def bindParams : List (String × Value) → List String → List Value → List (String × Value)
  | acc, [], _ => acc
  | acc, p :: ps, [] => bindParams ((p, .undefined) :: acc) ps []
  | acc, p :: ps, a :: as => bindParams ((p, a) :: acc) ps as

/-- The value of a name: parameters first, then the store, else `undefined`. -/
def lookup (store : Store) (locals : List (String × Value)) (n : String) : Value :=
  match locals.find? (fun p => p.1 == n) with
  | some (_, v) => v
  | none => (store.get? n).getD .undefined

/-- Whether a name is bound as a parameter or in the store. -/
def isBound (store : Store) (locals : List (String × Value)) (n : String) : Bool :=
  locals.any (fun p => p.1 == n) || store.contains n

/-- Joins template pieces with the texts of their expressions. -/
def templateJoin : List String → List Value → String
  | [], _ => ""
  | q :: qs, [] => q ++ String.join qs
  | q :: qs, v :: vs => q ++ v.toText ++ templateJoin qs vs

mutual
/-- The value of an expression. -/
def evalExpr (store : Store) (locals : List (String × Value)) : Expr → Value
  | .undefined => .undefined
  | .null => .null
  | .bool b => .bool b
  | .number x => .number x
  | .str s => .str s
  | .ident n => lookup store locals n
  | .template qs es => .str (templateJoin qs (evalList store locals es))
  | .array es => .array (evalList store locals es)
  | .unary op a => unaryValue op (evalExpr store locals a)
  | .binary op l r => binaryValue op (evalExpr store locals l) (evalExpr store locals r)
  | .logical op l r =>
    let lv := evalExpr store locals l
    let short := match op with
      | .and => !lv.truthy
      | .or => lv.truthy
      | .coalesce => !lv.isNullish
    if short then lv else evalExpr store locals r
  | .cond t c a =>
    if (evalExpr store locals t).truthy then evalExpr store locals c else evalExpr store locals a
  | .callFn n args => globalFunction n (evalList store locals args)
  | .callMethod (.ident n) m args =>
    if isBound store locals n then methodOn store locals (lookup store locals n) m args
    else if n == "Math" then mathFunction m (evalList store locals args)
    else if n == "console" then .undefined
    else methodOn store locals .undefined m args
  | .callMethod recv m args => methodOn store locals (evalExpr store locals recv) m args
  | .member (.ident n) p =>
    if n == "Math" && !isBound store locals n then mathConstant p
    else memberValue (lookup store locals n) p
  | .member o p => memberValue (evalExpr store locals o) p
  | .index o i => indexValue (evalExpr store locals o) (evalExpr store locals i)
  | .lambda _ _ => .undefined

/-- The values of a list of expressions. -/
def evalList (store : Store) (locals : List (String × Value)) : List Expr → List Value
  | [] => []
  | e :: es => evalExpr store locals e :: evalList store locals es

/-- A method call on an evaluated receiver. The iterating methods of arrays take their first
argument unevaluated, as the lambda to run on each item. -/
def methodOn (store : Store) (locals : List (String × Value)) (receiver : Value) (m : String) :
    List Expr → Value
  | [] =>
    match receiver with
    | .array _ => if isIterating m then .undefined else methodValue receiver m []
    | _ => methodValue receiver m []
  | a :: rest =>
    match receiver with
    | .array items =>
      if isIterating m then
        iterate m items (fun it i => applyLambda store locals a [it, .number (Number.ofNatNearest i)])
      else methodValue receiver m (evalExpr store locals a :: evalList store locals rest)
    | _ => methodValue receiver m (evalExpr store locals a :: evalList store locals rest)

/-- Applies a lambda written in place to arguments; anything else gives `undefined`. -/
def applyLambda (store : Store) (locals : List (String × Value)) : Expr → List Value → Value
  | .lambda ps body, args => evalExpr store (bindParams locals ps args) body
  | _, _ => .undefined
end

/-- The value of an expression against a store, outside any lambda. -/
def eval (store : Store) (e : Expr) : Value := evalExpr store [] e

/-- The operator a compound assignment applies. -/
def AssignOp.binary? : AssignOp → Option BinaryOp
  | .assign => none
  | .add => some .add
  | .sub => some .sub
  | .mul => some .mul
  | .div => some .div
  | .rem => some .rem

mutual
/-- Runs one statement: the new store and the requested names so far. -/
def execOne (store : Store) (requested : List String) : Stmt → Store × List String
  | .assign t op v =>
    let rhs := eval store v
    let next := match AssignOp.binary? op with
      | none => rhs
      | some b => binaryValue b ((store.get? t).getD .undefined) rhs
    (store.set t next, requested)
  | .update t op =>
    let current := ((store.get? t).map toNumber).getD Number.notANumber
    let next := match op with
      | .increment => current + 1.0
      | .decrement => current - 1.0
    (store.set t (.number next), requested)
  | .cond test a b =>
    if (eval store test).truthy then execAll store requested a else execAll store requested b
  | .eval _ => (store, requested)
  | .requestUpdate names => (store, addNames requested names)

/-- Runs statements in order. -/
def execAll (store : Store) (requested : List String) : List Stmt → Store × List String
  | [] => (store, requested)
  | s :: rest =>
    let (store', requested') := execOne store requested s
    execAll store' requested' rest
end

end Eval

end Reactive
