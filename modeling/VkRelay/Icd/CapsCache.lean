import VkRelay.Lib.History
import VkRelay.Lib.Table

/-!
The guest's cache of surface capabilities. It is keyed by physical device and surface, serves a
surface only while one of its swapchains is alive, and is emptied for a surface by whatever may
change the answer: a swapchain created on it or destroyed, a call on it that failed, an acquire
or a present that was no plain success. A call of the driver comes with the worker's reply; the
log keeps what the calls amounted to.
-/

namespace VkRelay.Icd

open VkRelay.Lib

/-! ## Cache -/

/-- The entries of the cache have distinct keys. -/
structure CapsCache (Caps : Type) where
  enabled : Bool := true
  swapchainSurface : Table Nat := ∅
  live : Table (Finset Nat) := ∅
  cache : List ((Nat × Nat) × Caps) := []
  hits : Nat := 0
  misses : Nat := 0
  invalidations : Nat := 0

namespace CapsCache

variable {Caps : Type} (c : CapsCache Caps)

def isLive (surface : Nat) : Bool :=
  match c.live[surface]? with
  | some swapchains => decide (swapchains ≠ ∅)
  | none => false

def surfaceOf (swapchain : Nat) : Nat := c.swapchainSurface.getD swapchain 0

/-- The surface loses its entries for all physical devices; each of them counts. -/
def invalidateSurface (surface : Nat) : CapsCache Caps :=
  let kept := c.cache.filter fun entry => entry.1.2 != surface
  { c with cache := kept, invalidations := c.invalidations + (c.cache.length - kept.length) }

def invalidateSwapchain (swapchain : Nat) : CapsCache Caps :=
  if c.surfaceOf swapchain ≠ 0 then c.invalidateSurface (c.surfaceOf swapchain) else c

def onSwapchainCreated (swapchain surface : Nat) : CapsCache Caps :=
  { c with
    swapchainSurface := c.swapchainSurface.insert swapchain surface
    live := c.live.insert surface (insert swapchain (c.live.getD surface ∅))
    }.invalidateSurface surface

def onSwapchainDestroyed (swapchain : Nat) : CapsCache Caps :=
  match c.swapchainSurface[swapchain]? with
  | none => c
  | some surface =>
    let live :=
      match c.live[surface]? with
      | none => c.live
      | some swapchains =>
        if swapchains.erase swapchain = ∅ then c.live.erase surface
        else c.live.insert surface (swapchains.erase swapchain)
    { c with swapchainSurface := c.swapchainSurface.erase swapchain, live
      }.invalidateSurface surface

def onSurfaceDestroyed (surface : Nat) : CapsCache Caps :=
  { c with
    swapchainSurface := c.swapchainSurface.filter fun _ owner => owner != surface
    live := c.live.erase surface }.invalidateSurface surface

/-- Served only while the cache is enabled and the surface is live. -/
def lookup (physicalDevice surface : Nat) : CapsCache Caps × Option Caps :=
  if c.enabled = false ∨ c.isLive surface = false then ({ c with misses := c.misses + 1 }, none)
  else
    match c.cache.lookup (physicalDevice, surface) with
    | none => ({ c with misses := c.misses + 1 }, none)
    | some caps => ({ c with hits := c.hits + 1 }, some caps)

def store (physicalDevice surface : Nat) (caps : Caps) : CapsCache Caps :=
  if c.enabled = false ∨ c.isLive surface = false then c
  else
    { c with cache := ((physicalDevice, surface), caps) ::
        c.cache.filter fun entry => entry.1 != (physicalDevice, surface) }

end CapsCache

/-! ## Calls -/

def kVkSuccess : Int := 0

/-- A reply of the worker, or a transport fault. A reply that is not ok carries no result. -/
inductive Reply (α : Type) where
  | fault
  | refused
  | ok (value : α)

structure PresentResponse where
  result : Int
  results : List Int

inductive Call (Caps : Type) where
  | createSurface (reply : Reply Nat)
  | destroySurface (surface : Nat)
  | createSwapchain (surface : Nat) (reply : Reply (Int × Nat))
  | destroySwapchain (swapchain : Nat)
  | query (physicalDevice surface : Nat) (reply : Reply Caps)
  | acquire (swapchain : Nat) (reply : Reply Int)
  | present (targets : List Nat) (reply : Reply PresentResponse)

inductive Event (Caps : Type) where
  | surfaceCreated (surface : Nat)
  | surfaceDestroyed (surface : Nat)
  | created (swapchain surface : Nat)
  | createFailed (surface : Nat)
  | destroyed (swapchain : Nat)
  /-- The worker replied to a query. -/
  | queried (physicalDevice surface : Nat) (caps : Caps)
  | queryFailed (physicalDevice surface : Nat)
  /-- A query was answered from the cache. -/
  | served (physicalDevice surface : Nat) (caps : Caps)
  /-- An acquire or a present of the swapchain, and whether it was a plain success. -/
  | signalled (swapchain : Nat) (good : Bool)
  deriving DecidableEq

namespace CapsCache

variable {Caps : Type} (c : CapsCache Caps)

def createSwapchain (surface : Nat) : Reply (Int × Nat) → CapsCache Caps × List (Event Caps)
  | .fault => (c.invalidateSurface surface, [.createFailed surface])
  | .refused => (c.invalidateSurface surface, [.createFailed surface])
  | .ok (result, swapchain) =>
    if result ≠ kVkSuccess then (c.invalidateSurface surface, [.createFailed surface])
    else (c.onSwapchainCreated swapchain surface, [.created swapchain surface])

/-- The worker is only asked when the cache has no answer. -/
def query (physicalDevice surface : Nat) (reply : Reply Caps) :
    CapsCache Caps × List (Event Caps) :=
  match c.lookup physicalDevice surface with
  | (looked, some caps) => (looked, [.served physicalDevice surface caps])
  | (looked, none) =>
    match reply with
    | .ok caps =>
      (looked.store physicalDevice surface caps, [.queried physicalDevice surface caps])
    | _ => (looked.invalidateSurface surface, [.queryFailed physicalDevice surface])

def acquire (swapchain : Nat) (reply : Reply Int) : CapsCache Caps × List (Event Caps) :=
  let good :=
    match reply with
    | .ok result => decide (result = kVkSuccess)
    | _ => false
  (if good then c else c.invalidateSwapchain swapchain, [.signalled swapchain good])

/-- The outcome for each target: good if the whole present and the target's own result are. A
result that is missing is not good. -/
def presentOutcomes (targets : List Nat) (reply : Reply PresentResponse) : List (Nat × Bool) :=
  match reply with
  | .ok r =>
    targets.zipIdx.map fun (swapchain, i) =>
      (swapchain, decide (r.result = kVkSuccess ∧ r.results[i]? = some kVkSuccess))
  | _ => targets.map fun swapchain => (swapchain, false)

def present (targets : List Nat) (reply : Reply PresentResponse) :
    CapsCache Caps × List (Event Caps) :=
  let outcomes := presentOutcomes targets reply
  (outcomes.foldl (fun c outcome => if outcome.2 then c else c.invalidateSwapchain outcome.1) c,
    outcomes.map fun outcome => .signalled outcome.1 outcome.2)

/-- The null handle is never destroyed. -/
def step : Call Caps → CapsCache Caps × List (Event Caps)
  | .createSurface (.ok surface) => (c, [.surfaceCreated surface])
  | .createSurface _ => (c, [])
  | .destroySurface surface =>
    if surface = 0 then (c, []) else (c.onSurfaceDestroyed surface, [.surfaceDestroyed surface])
  | .createSwapchain surface reply => c.createSwapchain surface reply
  | .destroySwapchain swapchain =>
    if swapchain = 0 then (c, [])
    else (c.onSwapchainDestroyed swapchain, [.destroyed swapchain])
  | .query physicalDevice surface reply => c.query physicalDevice surface reply
  | .acquire swapchain reply => c.acquire swapchain reply
  | .present targets reply => c.present targets reply

end CapsCache

end VkRelay.Icd
