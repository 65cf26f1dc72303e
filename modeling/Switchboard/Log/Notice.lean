import Switchboard.Connectivity
import Switchboard.Dial.Config
import Switchboard.Log.Level
import Switchboard.Status

/-!
# Notices

A notice is a record of the log: what happened, how grave it is, and which part
of the program says so.
-/

namespace Switchboard

/-- What the log records. -/
inductive Notice
  /-- A dial goes out unsecured. -/
  | plaintext
  /-- A cached connection is handed out again. -/
  | reusing (endpoint : String) (state : Connectivity)
  /-- A cached connection is given up. -/
  | evicting (endpoint : String) (state : Connectivity)
  /-- A dial succeeded. -/
  | established (endpoint : String)
  /-- A cache forgets its endpoints. -/
  | clearing (count : Nat) (family : Family)
  /-- A dial begins. -/
  | dialing (endpoint : String) (config : DialConfig)
  /-- A TCP connection could not be opened. -/
  | unreachable (uri : String) (fault : SocketFault)
  /-- A request found its connection broken. -/
  | broken (endpoint : String) (code : Code)
  /-- A connection was closed. -/
  | closed (endpoint : String)
  /-- A client is ready. -/
  | ready (debugMode : Bool) (authenticationCheck : Bool)
  /-- A probe got a connection, shown by its text. -/
  | probed (connection : String)

namespace Notice

/-- The level of a notice. -/
def level : Notice → Level
  | .plaintext | .evicting _ _ | .broken _ _ => .warn
  | .established _ | .ready _ _ => .info
  | .reusing _ _ | .clearing _ _ | .dialing _ _ | .unreachable _ _ | .closed _
  | .probed _ => .debug

/-- The part of the program that gives a notice. -/
def target : Notice → String
  | .plaintext => "agentlink_connect::dial"
  | .reusing _ _ | .evicting _ _ | .established _ | .clearing _ _ =>
      "agentlink_connect::cache"
  | .dialing _ _ | .unreachable _ _ | .broken _ _ | .closed _ =>
      "agentlink_connect::channel"
  | .ready _ _ => "agentlink::client"
  | .probed _ => "agentlink"

/-- The text of a notice. -/
def message : Notice → String
  | .plaintext => "Debug mode enabled: dialing without transport security"
  | .reusing endpoint state =>
      "Reusing connection to " ++ endpoint ++ " (" ++ state.display ++ ")"
  | .evicting endpoint state =>
      "Evicting stale connection to " ++ endpoint ++ " (" ++ state.display ++ ")"
  | .established endpoint => "Established new connection to " ++ endpoint
  | .clearing count family =>
      "Clearing " ++ toString count ++ " cached " ++ family.name ++ " endpoints"
  | .dialing endpoint config =>
      "Dialing " ++ endpoint ++ " (" ++ config.render ++ ")"
  | .unreachable uri fault =>
      "TCP connect to " ++ uri ++ " failed: " ++ fault.message
  | .broken endpoint code =>
      "Communication with " ++ endpoint ++ " failed (" ++ code.description ++
        "), marking connection stale"
  | .closed endpoint => "Closed connection to " ++ endpoint
  | .ready debugMode authenticationCheck =>
      "Cloud client ready (debug mode: " ++ Text.truth debugMode ++
        ", auth staleness check: " ++ Text.truth authenticationCheck ++ ")"
  | .probed connection => "Probe finished: " ++ connection

/-- A notice with its level. -/
def render (notice : Notice) : String :=
  notice.level.name ++ " " ++ notice.message

/-- A notice with its level and the part of the program that gives it. -/
def line (notice : Notice) : String :=
  notice.level.name ++ " " ++ notice.target ++ ": " ++ notice.message

/-- A character as it is shown on a terminal: the controls that could give the terminal
orders are spelled out. -/
def spellControl (char : Char) : List Char :=
  let code := char.toNat
  if code ∈ [0x07, 0x08, 0x0C, 0x1B, 0x7F] then
    ['\\', 'x'] ++ (if code < 16 then ['0'] else []) ++ Text.hex code
  else if 0x80 ≤ code ∧ code ≤ 0x9F then
    ['\\', 'u', Char.ofNat 0x7B] ++ Text.hex code ++ [Char.ofNat 0x7D]
  else [char]

/-- A notice's line for a terminal. -/
def terminalLine (notice : Notice) : String :=
  notice.level.name ++ " " ++ notice.target ++ ": " ++
    String.ofList (notice.message.toList.flatMap spellControl)

end Notice
end Switchboard
