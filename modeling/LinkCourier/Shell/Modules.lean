import LinkCourier.Text.Basic

/-!
The modules that a daemon can load, and the set of those that are loaded.
-/

namespace LinkCourier

inductive Module where
  | ftp | http
  deriving DecidableEq, Repr

namespace Module

def name : Module → String
  | .ftp => "ftp"
  | .http => "http"

def description : Module → String
  | .ftp => "FTP downloads"
  | .http => "HTTP/HTTPS downloads"

/-- All modules, in the order of their introduction. -/
def known : List Module := [.http, .ftp]

/-- All modules, in the order of their names. -/
def sorted : List Module := [.ftp, .http]

def ofName? (t : Text) : Option Module := known.find? (·.name.toList = t)

@[simp] theorem ofName?_name (m : Module) : ofName? m.name.toList = some m := by
  cases m <;> decide

theorem name_of_ofName? {t : Text} {m : Module} (h : ofName? t = some m) : m.name.toList = t := by
  simpa using List.find?_some h

/-- The module that fetches links of a scheme. -/
def ofScheme? (t : Text) : Option Module :=
  if t = "http".toList ∨ t = "https".toList then some .http
  else if t = "ftp".toList then some .ftp
  else none

end Module

/-- The loaded modules. -/
structure Modules where
  ftp : Bool := false
  http : Bool := false
  deriving DecidableEq, Repr

namespace Modules

def has (s : Modules) : Module → Bool
  | .ftp => s.ftp
  | .http => s.http

def put (s : Modules) (m : Module) (flag : Bool) : Modules :=
  match m with
  | .ftp => { s with ftp := flag }
  | .http => { s with http := flag }

@[simp] theorem has_put (s : Modules) (m n : Module) (flag : Bool) :
    (s.put m flag).has n = if n = m then flag else s.has n := by
  cases m <;> cases n <;> rfl

/-- Sorted by name. -/
def toList (s : Modules) : List Module := Module.sorted.filter s.has

@[simp] theorem mem_toList {s : Modules} {m : Module} : m ∈ s.toList ↔ s.has m := by
  cases m <;> simp [toList, Module.sorted, has]

/-- Loads the module of a name, and says whether it was not loaded before; there is no answer
if there is no such module. -/
def load (s : Modules) (name : Text) : Option Bool × Modules :=
  match Module.ofName? name with
  | none => (none, s)
  | some m => (some (!s.has m), s.put m true)

/-- Unloads the module of a name, and says whether it was loaded. -/
def unload (s : Modules) (name : Text) : Bool × Modules :=
  match Module.ofName? name with
  | none => (false, s)
  | some m => (s.has m, s.put m false)

def isLoaded (s : Modules) (name : Text) : Bool :=
  match Module.ofName? name with
  | none => false
  | some m => s.has m

end Modules

end LinkCourier
