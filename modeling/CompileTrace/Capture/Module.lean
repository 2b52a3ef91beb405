import CompileTrace.Text.Quoted

set_option autoImplicit false

/-! # Modules

A module is found by its name, and what it offers by a name in turn. What is offered may be a plan
that has to be carried out first, and for some plans that needs more than a name. -/

namespace CompileTrace

/-- A module: the full name that it is found by, the one that it goes by itself, whether other
    modules can stand in it, the names of what it offers of its own if they are known, and what of
    it cannot be made, with the reasons. -/
structure ReaderModule where
  name : Text
  ownName : Text
  isPackage : Bool
  offers? : Option (List Text)
  faults : List (Text × Text)
  deriving Repr

namespace ReaderModule

/-- The names on some lines, with a space between each two of a line. -/
def namesOn (lines : List Text) : List Text :=
  lines.flatMap (Text.fieldsBy (· == char ' '))

/-! ## What is offered -/

/-- What every module offers. -/
def common : List Text :=
  namesOn
    ["__name__ __doc__ __package__ __loader__ __spec__ __file__ __cached__ __builtins__",
     "__annotations__ __dict__ __class__ __delattr__ __dir__ __eq__ __format__ __ge__",
     "__getattribute__ __getstate__ __gt__ __hash__ __init__ __init_subclass__ __le__ __lt__",
     "__ne__ __new__ __reduce__ __reduce_ex__ __repr__ __setattr__ __sizeof__ __str__",
     "__subclasshook__"]

/-- What every package offers besides. -/
def commonToPackages : List Text := namesOn ["__path__ __all__"]

/-- Whether a module offers something under a name; where the names are not known, any will do. -/
def hasOffer (m : ReaderModule) (name : Text) : Bool :=
  (m.offers?.map (·.contains name)).getD true || common.contains name
    || (m.isPackage && commonToPackages.contains name)

/-! ## What cannot be made -/

/-- Names between quotes, one after the other as in a sentence. -/
def enumerate : List Text → Text
  | [] => []
  | [name] => name.quoted
  | [name, last] => name.quoted ++ " and " ++ last.quoted
  | names =>
    Text.join ", " (names.dropLast.map Text.quoted)
      ++ ", and " ++ (names.getLast?.getD []).quoted

/-- How it is told that something cannot be made without arguments. -/
def missing (maker : Text) (arguments : List Text) : Text :=
  let plural : Text := if arguments.length = 1 then [] else [char 's']
  maker ++ "() missing " ++ Text.ofNat arguments.length ++ " required positional argument" ++ plural
    ++ ": " ++ enumerate arguments

/-- How it is told that something cannot be made without its first argument. -/
def missingFirst (maker argument : Text) : Text :=
  maker ++ "() missing required argument " ++ argument.quoted ++ " (pos 1)"

/-- How it is told that something cannot be made without so many arguments. -/
def tooFew (maker expected : Text) : Text :=
  let plural : Text := if expected.getLast? = some (char '1') then [] else [char 's']
  maker ++ " expected " ++ expected ++ " argument" ++ plural ++ ", got 0"

/-- How it is told that something is only a form that other things have. -/
def abstract (name what : Text) : Text :=
  "Can't instantiate abstract class " ++ name ++ " with abstract method" ++ what

/-- How it is told that something is never made by its name. -/
def uncreatable (kind : Text) : Text := "cannot create '" ++ kind ++ "' instances"

/-- What cannot be made of any module. -/
def commonFaults : List (Text × Text) := [("__class__", missingFirst "module" "name")]

/-- Why what a module offers under a name cannot be made, if it cannot. -/
def makingFault? (m : ReaderModule) (name : Text) : Option Text :=
  (m.faults ++ commonFaults).lookup name

end ReaderModule

end CompileTrace
