import CompileTrace.Path.Basic
import CompileTrace.Uri.Host
import CompileTrace.Uri.Percent

set_option autoImplicit false

/-! # File URIs

The path that a URI of the scheme `file` names. The authority, the query and the fragment of the
URI are read over. -/

namespace CompileTrace.Uri

/-- Whether a scheme may hold a character. -/
def isSchemeChar (c : CodePoint) : Bool := c.isAlphanum || c == '+' || c == '-' || c == '.'

/-- A URI without the controls and spaces at its start and without the tabs and line ends in it. -/
def clean (uri : Text) : Text :=
  (uri.dropWhile (fun c => c.toNat ≤ 0x20)).filter
    (fun c => c != '\t' && c != '\r' && c != '\n')

/-- The scheme of a URI, which is empty if it has none, and what follows it. -/
def splitScheme (uri : Text) : Text × Text :=
  match uri.cutAt? (char ':') with
  | some (c :: scheme, rest) =>
    if c.isAlpha && scheme.all isSchemeChar then ((c :: scheme).map CodePoint.toLower, rest)
    else ([], uri)
  | _ => ([], uri)

/-- The authority of a URI without its scheme, which is empty if it has none, and what follows
    it. -/
def splitAuthority (s : Text) : Text × Text :=
  match s with
  | char '/' :: char '/' :: rest => rest.span (fun c => c != '/' && c != '?' && c != '#')
  | _ => ([], s)

/-- The path of what follows the authority: all of it up to a query or fragment. -/
def pathPart (s : Text) : Text := s.takeWhile (fun c => c != '?' && c != '#')

/-- The path that a URI names, in tidy form: none if it is not a file URI or its path is not
    absolute, and a fault if its host is not well formed. -/
def filePath? (uri : Text) : Except HostFault (Option Text) :=
  let (scheme, rest) := splitScheme (clean uri)
  let (authority, rest) := splitAuthority rest
  match (bracketFault? authority).or (lookalikeFault? authority) with
  | some fault => .error fault
  | none =>
    let path := decode (pathPart rest)
    .ok (if scheme = "file" ∧ Path.isAbsolute path then some (Path.tidy path) else none)

end CompileTrace.Uri
