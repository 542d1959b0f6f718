import Mathlib.Algebra.GroupWithZero.Nat
import Mathlib.Data.List.Basic
import RevisionScript.File.Tree

namespace RevisionScript

namespace Path

variable {p : Path} {name : String} {parts : List String}

end Path

namespace Tree

variable {t : Tree} {above : List Tree} {children inner : List (String × Tree)} {p : Path}
  {name : String} {parts : List String}

variable {n : Nat}

end Tree

end RevisionScript
