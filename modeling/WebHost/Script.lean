/-
Module: WebHost.Script
Purpose: Entry points given by a list of actions.
Main exports:
  Action, Action.edit?, runActions, scriptEntry
-/
import WebHost.Report.Exchange
import WebHost.Service

namespace WebHost

/-!
A script edits the response step by step; some of its actions write what the
request says.  Without a request these write that there is none.
-/

/-- One action of a script. -/
inductive Action where
  | edit (change : Edit)
  | illegalStatus
  | echo
  | describe
  | argument (key : String)
deriving Repr, Inhabited

/-- The edit that an action makes for a request.  A status that is none makes
no edit. -/
def Action.edit? (request : Option Request) : Action → Option Edit
  | .edit change => some change
  | .illegalStatus => none
  | .echo => some (.plain ((request.map Request.contentText).getD ""))
  | .describe => some (.json (some ((request.map Request.report).getD .null)))
  | .argument key => some (.plain ((request.bind (·.argument? key)).getD "<none>"))

/-- The response after a script. -/
def runActions (request : Option Request) (actions : List Action) (response : Response) :
    Response :=
  Edit.applyAll .standard (actions.filterMap (·.edit? request)) response

/-- The entry point that runs a script and leaves the application alone. -/
def scriptEntry {σ : Type} (actions : List Action) : EntryPoint σ :=
  fun request response state => (runActions (some request) actions response, state)

end WebHost
