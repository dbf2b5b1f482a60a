import Nstu.Control.Auth

/-!
# Replayed hellos

The `ReplayProtector` of `auth.cpp`: a queue of the hellos that have been accepted, each with the time
from which it may be forgotten, and the set of their keys.
-/

namespace Nstu.Control

open Wire

/-- How far two clocks are apart. -/
def clockDifference (peer now : UInt64) : UInt64 := if peer > now then peer - now else now - peer

def replayKey (hello : AuthHello) : Bytes := hello.clientId.toList ++ hello.clientNonce.toList

structure ReplayEntry where
  key : Bytes
  expiresAt : UInt64
  deriving DecidableEq

structure ReplayProtector where
  capacity : ℕ
  maximumClockSkew : UInt64
  entries : List ReplayEntry := []
  keys : Std.ExtTreeSet Bytes := ∅

namespace ReplayProtector

/-- The constructor. -/
def create (capacity : ℕ) (maximumClockSkew : ℤ) : ReplayProtector :=
  { capacity := max capacity 1, maximumClockSkew := UInt64.ofNat (max maximumClockSkew 1).toNat }

/-- The first loop of `accept`: what has expired is taken from the front. -/
def dropExpired (now : UInt64) (keys : Std.ExtTreeSet Bytes) :
    List ReplayEntry → List ReplayEntry × Std.ExtTreeSet Bytes
  | [] => ([], keys)
  | entry :: entries =>
    if entry.expiresAt < now then dropExpired now (keys.erase entry.key) entries
    else (entry :: entries, keys)

/-- The second loop of `accept`: room is made for one entry. -/
def dropOldest (capacity : ℕ) (keys : Std.ExtTreeSet Bytes) :
    List ReplayEntry → List ReplayEntry × Std.ExtTreeSet Bytes
  | [] => ([], keys)
  | entry :: entries =>
    if (entry :: entries).length ≥ capacity then dropOldest capacity (keys.erase entry.key) entries
    else (entry :: entries, keys)

/-- The time after which a hello may be forgotten, at most the largest there is. -/
def expiryOf (protector : ReplayProtector) (hello : AuthHello) (now : UInt64) : UInt64 :=
  let expiryBase := max now hello.unixTimeSeconds
  let maximum : UInt64 := 0xffffffffffffffff
  if protector.maximumClockSkew > maximum - expiryBase then maximum
  else expiryBase + protector.maximumClockSkew

def accept (protector : ReplayProtector) (hello : AuthHello) (now : UInt64) : ReplayProtector × Bool :=
  if !validateAuthHello hello then (protector, false)
  else if clockDifference hello.unixTimeSeconds now > protector.maximumClockSkew then (protector, false)
  else
    let (entries, keys) := dropExpired now protector.keys protector.entries
    if keys.contains (replayKey hello) then ({ protector with entries, keys }, false)
    else
      let (entries, keys) := dropOldest protector.capacity keys entries
      ({ protector with
          entries := entries ++ [⟨replayKey hello, protector.expiryOf hello now⟩]
          keys := keys.insert (replayKey hello) }, true)

end ReplayProtector

end Nstu.Control
