import EdgeStreams.Stream.Error

/-!
# Start signals

A stream cannot be used before its start signal has resolved. A signal settles once; whoever shares
it sees the same outcome.

## Main definitions

- `StartState`: the state of a signal, with `resolve` and `reject`
- `SignalBoard`: signals shared by several holders
-/

namespace EdgeStreams

/-- The state of a start signal. -/
inductive StartState where
  | pending
  | resolved
  | rejected (error : StreamError)
deriving DecidableEq, Repr

namespace StartState

def isResolved (state : StartState) : Bool := state = .resolved

/-- The name of the state, or the error of a start that failed. -/
def label : StartState → Except StreamError String
  | .pending => .ok "pending"
  | .resolved => .ok "resolved"
  | .rejected error => .error error

/-- Settles a signal that is still pending. -/
def settle (state outcome : StartState) : StartState :=
  match state with
  | .pending => outcome
  | state => state

def resolve (state : StartState) : StartState := state.settle .resolved

def reject (state : StartState) (error : StreamError) : StartState :=
  state.settle (.rejected error)

@[simp] theorem settle_settle (state first second : StartState) (h : first ≠ .pending) :
    (state.settle first).settle second = state.settle first := by
  cases state <;> cases first <;> simp_all [settle]

end StartState

/-- Signals that several holders share: each holder refers to a signal by its place. -/
structure SignalBoard where
  signals : Array StartState := #[]
  /-- The signal of each holder. -/
  holders : Array Nat := #[]
deriving Repr

namespace SignalBoard

/-- Adds a holder with a signal of its own. -/
def add (board : SignalBoard) (state : StartState) : SignalBoard :=
  { signals := board.signals.push state, holders := board.holders.push board.signals.size }

/-- Adds a holder that shares the signal of another. -/
def share (board : SignalBoard) (holder : Nat) : SignalBoard :=
  match board.holders[holder]? with
  | some place => { board with holders := board.holders.push place }
  | none => board

/-- Changes the signal of a holder. -/
def update (board : SignalBoard) (holder : Nat) (f : StartState → StartState) : SignalBoard :=
  match board.holders[holder]? with
  | some place => { board with signals := board.signals.modify place f }
  | none => board

/-- Whether two holders share their signal. -/
def same (board : SignalBoard) (first second : Nat) : Bool :=
  board.holders[first]? == board.holders[second]?

/-- What each holder sees. -/
def states (board : SignalBoard) : List StartState :=
  board.holders.toList.filterMap fun place => board.signals[place]?

end SignalBoard

end EdgeStreams
