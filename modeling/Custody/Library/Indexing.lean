import Custody.Library.Location
import Custody.Library.Unit

/-!
# Indexing by the library

Before every event the library asks whether to stop, and then delivers the event
if there is a callback for it.
-/

namespace Custody
namespace Library

/-- The callbacks of an indexing run, as changes of a state. -/
structure Listener (σ : Type) where
  /-- Whether to stop. -/
  query : σ → σ × Bool
  /-- Receives an event. -/
  deliver : Event → σ → σ

/-- A way of reporting events to a listener, given the stations with a callback and whether the
wish to stop is ignored. -/
abbrev Reporter (σ : Type) := Listener σ → List Station → Bool → List Event → σ → σ

/-- Reports events in order to a listener. -/
def report {σ : Type} (listener : Listener σ) (installed : List Station) (ignoreAbort : Bool) :
    List Event → σ → σ
  | [], state => state
  | event :: rest, state =>
      match listener.query state with
      | (state, stop) =>
          if stop && !ignoreAbort then state
          else
            report listener installed ignoreAbort rest
              (if installed.contains event.station then listener.deliver event state else state)

namespace Call

/-- Makes an indexing session, unless the reply says otherwise. -/
def createAction (index : Handle) : Call (Option Handle) := do
  use index
  note (.createAction index)
  if (← get).reply.null then return none
  return some (← allocate .action (some index) .action)

/-- Begins to index a unit: the events that will be reported. -/
def beginIndexing (action unit : Handle) (options : Int) (installed : List Station) :
    Call (List Event) := do
  use action
  use unit
  note (.index action unit (unsignedWord options) installed)
  modify fun state => { state with installed := installed }
  return ((← get).unitModel unit).events

end Call
end Library
end Custody
