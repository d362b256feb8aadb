import Monkey.Bench.Datum

/-!
# The modules a benchmark host finds

The coverage runner loads its module of benchmarks by name, the way its host's import system
loads a module, over the modules of the host (`Host`, a parameter: its library and the packages
installed beside it, with the modules that fail as they load) and of the repository it is
handed.

- A name that starts with a dot is read against a package, and the runner names none: loading
  it fails with a type error.
- The empty name fails with a value error.
- A name the host has loaded already loads as it is: the running script, and `os.path`, the
  path module under a second name.
- Any other dotted name loads its parent first and fails where the parent fails. A parent that
  is a plain module, not a package, holds no modules; a package holds those its table lists.
- A name with no dot is looked up among the top-level modules.

A failure names the module with its text quoted as the host quotes strings.

The repository holds the interpreter's packages, one for each part, with no test programs, the
interpreter's command line, the module of benchmarks and the tools' scripts.
-/

namespace Monkey

namespace Modules

/-- The modules of a host besides the repository: the packages and the plain modules of its
library and of the packages installed beside it, by their dotted names to every level, and the
modules whose loading fails, each with its failure. -/
structure Host where
  packages : List String
  modules : List String
  failing : List (String × String)

/-- The names of a table written as words between blanks. -/
def words (table : String) : List String :=
  (table.splitOn " ").filter (!·.isEmpty)

/-- The packages of the repository. -/
def repositoryPackages : List String :=
  words <| " ".intercalate
    ["_Ast _Evaluator _Lexer _Object _Parser _Repl _Token"]

/-- The plain modules of the repository. -/
def repositoryModules : List String :=
  words <| " ".intercalate
    ["_Ast.ast _Ast.ast_test _Evaluator.builtins _Evaluator.evaluator _Evaluator.evaluator_test",
     "_Evaluator.utils _Lexer.lexer _Lexer.lexer_test _Object.const _Object.object _Parser.parser",
     "_Parser.parser_test _Parser.priority _Repl.exec _Repl.repl _Token.const _Token.token",
     "_pti_cov_runner _pti_repotime _pti_semcheck microbench monkey"]

/-- What a name stands for in the host. -/
inductive Kind where
  /-- a package: a module that holds modules -/
  | package
  /-- a plain module -/
  | plain
  deriving DecidableEq

/-- The modules the host has loaded before it loads the one asked for, under names that no
table lists. -/
def loadedModules : List String := ["__main__", "os.path"]

section

variable (host : Host)

/-- What a name stands for among the host's and the repository's modules, if any. -/
def kind? (name : String) : Option Kind :=
  if host.packages.contains name || repositoryPackages.contains name then some .package
  else if host.modules.contains name || repositoryModules.contains name then some .plain
  else none

/-- The message of a name that nothing stands for. -/
def notFound (name : String) : String :=
  "ModuleNotFoundError: No module named " ++ Datum.quote name

/-- The kind of the module a name stands for, or the failure of loading it: found in the
tables, and not a module whose loading fails. -/
def loaded (name : String) (k : Option Kind) : Except String Kind :=
  match k, host.failing.lookup name with
  | some _, some failure => throw failure
  | some k, none => pure k
  | none, _ => throw (notFound name)

/-- The kind of the module named by the dotted parts `parent` (read in reverse, the innermost
first) and then `part`, found by finding its parent first; or the message of the failure. -/
def find : List String → Except String Kind
  | [] => throw (notFound "")
  | [part] =>
    if loadedModules.contains part then pure .plain
    else loaded host part (kind? host part)
  | part :: parent =>
    let name := ".".intercalate (part :: parent).reverse
    let outer := ".".intercalate parent.reverse
    if loadedModules.contains name then pure .plain
    else do
      match ← find parent with
      | .plain =>
        throw (notFound name ++ "; " ++ Datum.quote outer ++ " is not a package")
      | .package => loaded host name (kind? host name)

/-- The failure of loading a module by name, as its kind and message, or none when it loads. -/
def loadFault? (name : String) : Option String :=
  if name.startsWith "." then
    some ("TypeError: the 'package' argument is required to perform a relative import for " ++
      Datum.quote name)
  else if name.isEmpty then some "ValueError: Empty module name"
  else match find host (name.splitOn ".").reverse with
    | .ok _ => none
    | .error m => some m

end

end Modules

end Monkey
