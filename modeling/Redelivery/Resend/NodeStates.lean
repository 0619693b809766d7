import Redelivery.Delivery.Network

/-!
# The state of the nodes

The state of the node of each transport, and what a watcher of one of them has
seen.  Only a state that differs from the one before is a change.
-/

namespace Redelivery

/-- The latest state of a node, and how many changes came before it. -/
structure NodeHistory where
  state : NodeState
  version : Nat
deriving DecidableEq, Inhabited

structure NodeStates where
  nodes : Table Transport NodeHistory
deriving DecidableEq, Inhabited

/-- What a watcher of a node has seen. -/
structure NodeCursor where
  transport : Transport
  /-- The version seen last, if any was. -/
  seen : Option Nat
deriving DecidableEq, Inhabited

namespace NodeStates

def new (transports : List Transport) : NodeStates :=
  ⟨.ofList (transports.map fun t => (t, ⟨.new, 0⟩))⟩

def transports (n : NodeStates) : List Transport :=
  n.nodes.keys

def state? (n : NodeStates) (t : Transport) : Option NodeState :=
  (n.nodes.get? t).map NodeHistory.state

/-- Moves a node to a state.  A transport without a node is left alone. -/
def set (n : NodeStates) (t : Transport) (state : NodeState) : NodeStates :=
  match n.nodes.get? t with
  | none => n
  | some h =>
    if h.state = state then n else ⟨n.nodes.insert t ⟨state, h.version + 1⟩⟩

def watch (n : NodeStates) : List NodeCursor :=
  n.nodes.toList.map fun (t, h) => ⟨t, some h.version⟩

/-- The state of a node, if a watcher has not seen it. -/
def unseen? (n : NodeStates) (c : NodeCursor) : Option NodeHistory :=
  (n.nodes.get? c.transport).filter fun h => c.seen != some h.version

/-- The state of a node that a watcher has not seen, which counts as seen from
then on. -/
def poll (n : NodeStates) (c : NodeCursor) : Option NodeState × NodeCursor :=
  match n.unseen? c with
  | some h => (some h.state, { c with seen := some h.version })
  | none => (none, c)

end NodeStates

end Redelivery
