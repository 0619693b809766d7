import Redelivery.Delivery.Status
import Redelivery.Ledger.MessageId
import Redelivery.Table

/-!
# Status streams

A source holds the latest status of every message that the network reports on.
A status is followed by a cursor, which sees the latest status only: of several
that come one after the other, all but the last may go unseen.  A message that
is forgotten ends its stream; if it is reported on again, a new stream begins.
Ids that begin a stream are announced, and a listener that is too slow misses
the oldest of them.
-/

namespace Redelivery

/-- The reports on one message, of which only the latest counts. -/
structure StatusStream where
  /-- What tells this stream from an earlier one of the same message. -/
  number : Nat
  status : DeliveryStatus
  /-- How many reports came before the latest. -/
  version : Nat
deriving DecidableEq, Inhabited

/-- What one reader has seen of a stream. -/
structure StatusCursor where
  id : MessageId
  stream : Nat
  /-- The version seen last, if any was. -/
  seen : Option Nat
deriving DecidableEq, Inhabited

/-- What a cursor finds. -/
inductive Sighting where
  | changed (status : DeliveryStatus)
  | unchanged
  | closed
deriving DecidableEq

/-- The latest status of every message that is reported on. -/
structure StatusSource where
  current : Table MessageId StatusStream
  /-- Streams that have ended, by number, as they were. -/
  ended : Table Nat StatusStream
  nextStream : Nat
  /-- Every id that began a stream, the latest last. -/
  announced : Array MessageId
deriving DecidableEq, Inhabited

namespace StatusSource

def empty : StatusSource := ⟨.empty, .empty, 0, #[]⟩

def status? (s : StatusSource) (id : MessageId) : Option DeliveryStatus :=
  (s.current.get? id).map StatusStream.status

def ids (s : StatusSource) : List MessageId :=
  s.current.keys

def size (s : StatusSource) : Nat :=
  s.current.size

/-- Takes a report.  A stream that is there changes, even if the status is the
same; else a stream begins and is announced. -/
def set (s : StatusSource) (id : MessageId) (status : DeliveryStatus) :
    StatusSource :=
  match s.current.get? id with
  | some stream =>
    { s with
      current := s.current.insert id
        { stream with status, version := stream.version + 1 } }
  | none =>
    { s with
      current := s.current.insert id ⟨s.nextStream, status, 0⟩
      nextStream := s.nextStream + 1
      announced := s.announced.push id }

def remove (s : StatusSource) (id : MessageId) : StatusSource :=
  match s.current.get? id with
  | some stream =>
    { s with
      current := s.current.erase id,
      ended := s.ended.insert stream.number stream }
  | none => s

/-- Begins to follow a message; its current status counts as not seen. -/
def subscribe (s : StatusSource) (id : MessageId) : Option StatusCursor :=
  (s.current.get? id).map fun stream => ⟨id, stream.number, none⟩

/-- The stream that a cursor follows, if it has not ended. -/
def open? (s : StatusSource) (c : StatusCursor) : Option StatusStream :=
  (s.current.get? c.id).filter fun stream => stream.number == c.stream

def unseen? (s : StatusSource) (c : StatusCursor) : Option StatusStream :=
  (s.open? c <|> s.ended.get? c.stream).filter fun stream =>
    c.seen != some stream.version

def markSeen (s : StatusSource) (c : StatusCursor) : StatusCursor :=
  match s.unseen? c with
  | some stream => { c with seen := some stream.version }
  | none => c

/-- Looks whether a stream has changed; one that has ended tells nothing
else. -/
def poll (s : StatusSource) (c : StatusCursor) : Sighting × StatusCursor :=
  match s.open? c with
  | none => (.closed, c)
  | some _ =>
    match s.unseen? c with
    | some stream => (.changed stream.status, s.markSeen c)
    | none => (.unchanged, c)

/-- What a cursor that waits for a change finds: a status that was not seen
comes before the end of the stream. -/
def next (s : StatusSource) (c : StatusCursor) : Sighting × StatusCursor :=
  match s.unseen? c with
  | some stream => (.changed stream.status, s.markSeen c)
  | none => if (s.open? c).isSome then (.unchanged, c) else (.closed, c)

/-- How many announcements are kept for listeners. -/
def announcementsKept : Nat := 1024

inductive Hearing where
  | announced (id : MessageId)
  | missed (count : Nat)
  | silence
deriving DecidableEq

/-- What a listener that has heard the first `position` announcements hears
next, and how many it has heard or missed then. -/
def hear (s : StatusSource) (position : Nat) : Hearing × Nat :=
  let oldest := s.announced.size - announcementsKept
  if position < oldest then (.missed (oldest - position), oldest)
  else
    match s.announced[position]? with
    | some id => (.announced id, position + 1)
    | none => (.silence, position)

/-- All that a listener hears: the ids, and how many announcements it has
missed. -/
def hearAll (s : StatusSource) (position : Nat) : List MessageId × Nat :=
  let oldest := s.announced.size - announcementsKept
  ((s.announced.toList.drop (max position oldest)), oldest - position)

end StatusSource

end Redelivery
