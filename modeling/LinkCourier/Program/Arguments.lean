import LinkCourier.Text.Basic

/-!
Arguments of a program: options with one value each, and words.

An option is written `--name value` or `--name=value`, or with one letter as `-x value`,
`-xvalue` or `-x=value`. A value in an argument of its own may not begin with a dash. No
option may be given twice. After `--` there are only words.
-/

namespace LinkCourier.Arguments

structure Opt where
  name : String
  letter : Option Char
  accepts : Text → Bool

/-- Values by the names of their options. -/
abbrev Given := List (String × Text)

/-- What arguments come to: something to do, a page to show, or nothing that makes sense. -/
inductive Reading (α : Type) where
  | done (a : α)
  | help
  | version
  | refused

def Reading.andThen {α β : Type} (r : Reading α) (f : α → Reading β) : Reading β :=
  match r with
  | .done a => f a
  | .help => .help
  | .version => .version
  | .refused => .refused

def Reading.map {α β : Type} (f : α → β) (r : Reading α) : Reading β := r.andThen (.done <| f ·)

/-- The options in front of the first word: their values and all that is left, with a mark
whether only words may follow. -/
structure Front where
  given : Given
  rest : List Text
  escaped : Bool := false

def put (o : Opt) (v : Text) (given : Given) : Option Given :=
  if o.accepts v ∧ (given.lookup o.name).isNone then some (given ++ [(o.name, v)]) else none

/-- An argument that can stand for a value, a word or a dash alone. -/
def isWord : Text → Bool
  | '-' :: _ :: _ => false
  | _ => true

/-- An argument with an option: the option, and its value if that is part of the argument. -/
def option? (opts : List Opt) : Text → Option (Opt × Option Text)
  | '-' :: '-' :: t =>
    let (name, value) := t.span (· != '=')
    (opts.find? (·.name.toList = name)).map fun o =>
      (o, match value with
        | [] => none
        | _ :: v => some v)
  | '-' :: x :: t =>
    (opts.find? (·.letter = some x)).map fun o =>
      (o, match t with
        | [] => none
        | '=' :: v => some v
        | v => some v)
  | _ => none

def isHelp (t : Text) : Bool := t == "--help".toList || "-h".toList.isPrefixOf t
def isVersion (t : Text) : Bool := t == "--version".toList || "-V".toList.isPrefixOf t

def front (opts : List Opt) (given : Given) : List Text → Reading Front
  | [] => .done ⟨given, [], false⟩
  | t :: r =>
    if isWord t then .done ⟨given, t :: r, false⟩
    else if t = "--".toList then .done ⟨given, r, true⟩
    else if isHelp t then .help
    else if isVersion t then .version
    else match option? opts t with
      | none => .refused
      | some (o, some v) => match put o v given with
        | some given => front opts given r
        | none => .refused
      | some (o, none) => match r with
        | [] => .refused
        | v :: r =>
          if isWord v then match put o v given with
            | some given => front opts given r
            | none => .refused
          else .refused

/-- Words, between which only a call for help may stand; `room` says how many more there may
be. -/
def words (room : Option Nat) : List Text → Reading (List Text)
  | [] => .done []
  | t :: r =>
    if isWord t then
      if room = some 0 then .refused else (words (room.map (· - 1)) r).map (t :: ·)
    else if t = "--".toList then if fits room r then .done r else .refused
    else if isHelp t then .help
    else .refused
where
  fits : Option Nat → List Text → Bool
    | none, _ => true
    | some n, r => r.length ≤ n

end LinkCourier.Arguments
