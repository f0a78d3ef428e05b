import SessionKeeper.Command.Run
import SessionKeeper.Rehearsal.Scene

/-! # Errands

A command run against a scripted backend. What would happen between a request and its answer does not
happen here: a command is alone with the backend. -/

namespace SessionKeeper.Rehearsal

/-- The surrounding of a command: its client, the backend, and the requests that it received. -/
structure Errand where
  client : Client Vault
  backend : Backend Step
  received : List (Received Report)

namespace Errand

/-- An errand that has not begun. -/
def start (b : Backend Step) (c : Client Vault) : Errand := ⟨c, b, []⟩

/-- The host of an errand. -/
def host : Host Vault Errand where
  client e := e.client
  setClient c e := { e with client := c }
  reply call e :=
    match e.backend.receive call with
    | (.error f, b) => (some (.error f), { e with backend := b })
    | (.ok (w, rule), b) =>
      (rule.reply? w, { e with backend := b, received := e.received ++ [.ofWire w []] })

/-- Runs an action, by the part of the program it is for or by another one, against a backend with
these rules at the configured address. -/
def run (config : Except ConfigError Config) (listening : Bool) (rules : List (Rule Step))
    (part : Option Command.Handler) (a : Command.Action) (d : Disk) (input : String) :
    Command.Ended Errand :=
  let base := match config with
    | .ok c => c.apiBaseUrl
    | .error _ => ""
  Command.execute host (start ⟨base, listening, rules⟩) config (part.getD a.handler) a d
    (.ofInput input)

end Errand

end SessionKeeper.Rehearsal
