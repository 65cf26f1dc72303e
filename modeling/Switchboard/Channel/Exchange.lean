import Switchboard.Cache.Run
import Switchboard.Channel.Log

/-!
# Exchanges

An exchange is a cache together with its dialer and with the connections that
have been got so far, from the cache or by dialing past it.  Each connection
reports its state in the surroundings of the cache, so that what a request does to
a connection is seen by the next lookup.
-/

namespace Switchboard

/-- A cache, its dialer, and the connections got so far. -/
structure Exchange where
  /-- The cache. -/
  cache : Cache
  /-- Its dialer. -/
  dialer : Dialer
  /-- The surroundings, in which each connection reports its state. -/
  surroundings : Surroundings
  /-- What the cache knows. -/
  state : CacheState
  /-- The connections got so far, with their numbers. -/
  connections : Table Ticket Connection

/-- What came of something that was done with an exchange. -/
structure Done (α : Type) where
  /-- The exchange afterwards. -/
  exchange : Exchange
  /-- What was noted. -/
  notices : List Notice
  /-- The result. -/
  result : α

namespace Exchange

/-- An exchange with which nothing has been done. -/
def ofCache (cache : Cache) (dialer : Dialer) : Exchange :=
  ⟨cache, dialer, { Surroundings.initial with answer := dialer.answer }, .empty, .empty⟩

/-- A number that no lookup has had. -/
def freshTicket (exchange : Exchange) : Ticket :=
  exchange.surroundings.started.length

/-- The dialer of an exchange, which every lookup meets. -/
def dialers (exchange : Exchange) : Dialers :=
  fun _ => exchange.dialer

/-- The exchange after the cache has done something. -/
def absorb (exchange : Exchange) (turn : Turn) : Exchange :=
  { exchange with
    surroundings := turn.surroundings
    state := turn.state
    connections :=
      (exchange.dialers.connections turn.effects).foldl
        (fun known (ticket, connection) => known.set ticket connection)
        exchange.connections }

/-- The cache does something. -/
def throughCache (exchange : Exchange) (turn : Turn) : Done Turn :=
  ⟨exchange.absorb turn, exchange.dialers.log turn.effects, turn⟩

/-- An address is looked up once. -/
def get
    (exchange : Exchange)
    (authorizer : Authorizer)
    (address : String) : Done (Option Outcome) :=
  let ticket := exchange.freshTicket
  let done :=
    exchange.throughCache
      (exchange.cache.attempt ⟨exchange.surroundings, exchange.state, []⟩
        ⟨ticket, address, authorizer, none⟩)
  ⟨done.exchange, done.notices, done.result.outcomeOf? ticket⟩

/-- The cache is cleared. -/
def clear (exchange : Exchange) : Done Unit :=
  let done :=
    exchange.throughCache (exchange.cache.clear exchange.surroundings exchange.state)
  ⟨done.exchange, done.notices, ()⟩

/-- An endpoint is dialed past the cache, after a preparation. -/
def dial
    (exchange : Exchange)
    (preparation : Preparation)
    (endpoint : String) : Done Outcome :=
  match preparation.outcome with
  | .error error => ⟨exchange, preparation.notices, .error error⟩
  | .ok config =>
      let dialed := exchange.dialer.dial endpoint config
      let notices := preparation.notices ++ dialed.notices
      match dialed.outcome with
      | .error error => ⟨exchange, notices, .error error⟩
      | .ok (connection, state) =>
          let ticket := exchange.freshTicket
          let known :=
            { exchange with
              surroundings := (exchange.surroundings.register ticket).report ticket state
              connections := exchange.connections.set ticket connection }
          ⟨known, notices, .ok ticket⟩

/-- The connection at a place among those got so far. -/
def connectionAt? (exchange : Exchange) (place : Nat) : Option (Ticket × Connection) :=
  exchange.connections.entries[place]?

/-- The place of a connection among those got so far. -/
def placeOf? (exchange : Exchange) (ticket : Ticket) : Option Nat :=
  exchange.connections.keys.idxOf? ticket

/-- The state of a connection. -/
def stateOf (exchange : Exchange) (ticket : Ticket) : Connectivity :=
  exchange.surroundings.stateOf ticket

/-- The states of all connections got so far. -/
def states (exchange : Exchange) : List Connectivity :=
  exchange.connections.keys.map exchange.stateOf

/-- A connection reports what has happened to it. -/
def report (exchange : Exchange) (ticket : Ticket) (report : Report) : Done Unit :=
  ⟨{ exchange with
      surroundings := exchange.surroundings.report ticket report.state },
    report.notices, ()⟩

end Exchange
end Switchboard
