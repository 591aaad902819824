/-
  Scaffold/Account.lean
  =====================
  **The user's account.**

  Where no variable names the home directory, the list of accounts does. It has a line for each
  account,

      name:password:number:group:comment:home:shell

  and the number of the account that a run belongs to is in the status of its process.
-/
import Scaffold.Text

namespace Scaffold.Account

open Scaffold

/-- The number after `Uid:` in the status of a process. -/
def number? (status : String) : Option String := do
  let line ← (Text.splitOn '\n' status).find? ("Uid:".toList.isPrefixOf ·.toList)
  (Text.splitOn '\t' line)[1]?

/-- The home directory of the account with a number. -/
def homeOf? (number accounts : String) : Option String :=
  (Text.splitOn '\n' accounts).findSome? fun line =>
    match Text.splitOn ':' line with
    | [_, _, other, _, _, home, _] =>
      if other == number && !home.isEmpty then some home else none
    | _ => none

end Scaffold.Account
