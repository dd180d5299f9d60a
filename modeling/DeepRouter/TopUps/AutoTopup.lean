import DeepRouter.Library.GoStrings
import DeepRouter.Library.Runs

/-! # Automatic top-up

The calls for one user are interleaved step by step. The provider executes a key once and answers a
repeated key with its first result. -/

namespace DeepRouter.TopUps

open GoStrings

structure TopupUser where
  (id quota : Int)
  autoTopupEnabled : Bool
  (autoTopupAmount autoTopupThreshold : Int)
  (stripeCustomer airwallexConsentId : String)

/-- The conversions of quota to money go through floating point and are taken as given. -/
structure TopupSettings where
  airwallexEnabled : Bool
  (sellMultiplier minChargeCents minChargeAUDCents : Int)
  stripeApiSecret : String
  redisEnabled : Bool
  (quotaUnitsToStripeCents quotaUnitsToMajorCents : Int → Int)

namespace TopupSettings

variable (cfg : TopupSettings)

def autoTopupSellMultiplier : Int :=
  if cfg.sellMultiplier ≤ 0 then 5 else cfg.sellMultiplier

def autoTopupMinChargeCents : Int :=
  if cfg.minChargeCents ≤ 0 then 500 else cfg.minChargeCents

def autoTopupMinChargeAUDCents : Int :=
  if cfg.minChargeAUDCents ≤ 0 then 500 else cfg.minChargeAUDCents

end TopupSettings

inductive SkipReason where
  | autoTopupDisabled
  | autoTopupAmountZero
  | quotaAboveThreshold
  | noStripeCustomer
  | stripeKeyNotConfigured
  | redisNotEnabled
  | amountBelowStripeMinimum
  | airwallexAutotopupDisabled
  | noAirwallexConsent
  | amountBelowMinimum
  | lockHeld

inductive Provider where
  | stripe
  | airwallex
deriving DecidableEq

def looksLikeStripeKey (s : String) : Bool := hasPrefix s "sk_" || hasPrefix s "rk_"

def decideAutoTopup (cfg : TopupSettings) (user : TopupUser) : Except SkipReason Int :=
  if !user.autoTopupEnabled then .error .autoTopupDisabled
  else if user.autoTopupAmount ≤ 0 then .error .autoTopupAmountZero
  else if user.autoTopupThreshold ≤ user.quota then .error .quotaAboveThreshold
  else if user.stripeCustomer = "" then .error .noStripeCustomer
  else if !looksLikeStripeKey cfg.stripeApiSecret then .error .stripeKeyNotConfigured
  else if !cfg.redisEnabled then .error .redisNotEnabled
  else
    let cents := cfg.quotaUnitsToStripeCents user.autoTopupAmount *
      cfg.autoTopupSellMultiplier
    if cents < cfg.autoTopupMinChargeCents then .error .amountBelowStripeMinimum
    else .ok cents

def decideAirwallexAutoTopup (cfg : TopupSettings) (user : TopupUser) :
    Except SkipReason Int :=
  if !cfg.airwallexEnabled then .error .airwallexAutotopupDisabled
  else if !user.autoTopupEnabled then .error .autoTopupDisabled
  else if user.autoTopupAmount ≤ 0 then .error .autoTopupAmountZero
  else if user.autoTopupThreshold ≤ user.quota then .error .quotaAboveThreshold
  else if user.airwallexConsentId = "" then .error .noAirwallexConsent
  else if !cfg.redisEnabled then .error .redisNotEnabled
  else
    let cents := cfg.quotaUnitsToMajorCents user.autoTopupAmount
    if cents < cfg.autoTopupMinChargeAUDCents then .error .amountBelowMinimum
    else .ok cents

def provider (cfg : TopupSettings) (user : TopupUser) : Provider :=
  if cfg.airwallexEnabled ∧ user.airwallexConsentId ≠ "" then .airwallex else .stripe

def decideCharge (cfg : TopupSettings) (user : TopupUser) : Except SkipReason Int :=
  match provider cfg user with
  | .airwallex => decideAirwallexAutoTopup cfg user
  | .stripe => decideAutoTopup cfg user

structure Charge where
  provider : Provider
  key : String
deriving DecidableEq

def chargeAt (provider : Provider) (userId : Int) (now : Nat) : Charge where
  provider
  key :=
    match provider with
    | .stripe => "auto-topup:" ++ toString userId ++ ":" ++ toString (now / 60)
    | .airwallex => "aw-autotopup-" ++ toString userId ++ "-" ++ toString (now / 60)

inductive AutoTopupResult where
  | skipped (reason : SkipReason)
  | charged (charge : Charge) (chargedCents quotaIncreased : Int)

inductive Worker where
  | idle
  | decided (user : TopupUser) (cents : Int)
  | locked (user : TopupUser) (cents : Int)
  | charged (user : TopupUser) (cents : Int) (charge : Charge)
  | done (result : AutoTopupResult)

/-- `lock` is the time at which the lock expires. -/
structure TopupState where
  now : Nat
  user : TopupUser
  lock : Option Nat := none
  (executed credits : List Charge := [])
  workers : Nat → Worker := fun _ => .idle

inductive TopupEvent where
  | advance (worker : Nat)
  | tick (seconds : Nat)
  | spend (amount : Nat)

namespace TopupState

def setWorker (s : TopupState) (i : Nat) (worker : Worker) : TopupState :=
  { s with workers := fun j => if j = i then worker else s.workers j }

def lockFree (s : TopupState) : Bool :=
  match s.lock with
  | none => true
  | some expiry => decide (expiry ≤ s.now)

def advance (cfg : TopupSettings) (s : TopupState) (i : Nat) : TopupState :=
  match s.workers i with
  | .idle =>
    match decideCharge cfg s.user with
    | .error reason => s.setWorker i (.done (.skipped reason))
    | .ok cents => s.setWorker i (.decided s.user cents)
  | .decided user cents =>
    if s.lockFree then { s.setWorker i (.locked user cents) with lock := some (s.now + 60) }
    else s.setWorker i (.done (.skipped .lockHeld))
  | .locked user cents =>
    let charge := chargeAt (provider cfg user) user.id s.now
    { s.setWorker i (.charged user cents charge) with
      executed := if charge ∈ s.executed then s.executed else s.executed ++ [charge] }
  | .charged user cents charge =>
    { s.setWorker i (.done (.charged charge cents user.autoTopupAmount)) with
      user := { s.user with quota := s.user.quota + user.autoTopupAmount }
      credits := s.credits ++ [charge] }
  | .done _ => s

def step (cfg : TopupSettings) (s : TopupState) : TopupEvent → TopupState
  | .advance i => s.advance cfg i
  | .tick seconds => { s with now := s.now + seconds }
  | .spend amount => { s with user := { s.user with quota := s.user.quota - amount } }

end TopupState

end DeepRouter.TopUps
