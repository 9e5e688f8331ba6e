import AxmolFighter.Battle.Server
import Mathlib.Algebra.Order.Field.Basic
import Mathlib.Algebra.Order.Field.Power
import Mathlib.Algebra.Order.Ring.Rat
import Mathlib.Data.List.SplitOn
import Mathlib.Tactic.NormNum
import Mathlib.Tactic.Positivity

/-!
# The configuration of the battle server

`BattleConfigLoader.cpp` reads the configuration from lines of keys and values, with `std::stoi` and its
siblings: these take the number that a value begins with, and throw if there is none or it does not fit, in
which case no configuration is returned. What `BattleServer.cpp` derives from the configuration is said here
with divisions that are undefined for the divisor 0; the arithmetic of `float` is that of the rationals,
rounded.
-/

namespace AxmolFighter.Battle

/-- `BattleServerConfig`, also with what only `main` and the connection use. -/
structure LoadedConfig extends BattleServerConfig where
  gatewayHost : List Char := "127.0.0.1".toList
  gatewayPort : Int32 := 17100
  reconnectInterval : Float32 := 3
  tickRate : Int32 := 30
  contentRoot : List Char := "../../AxmolFighter-Client/Content".toList

/-! ### Numbers in a text -/

/-- What the conversions skip. -/
def isSpace (c : Char) : Bool := c = ' ' || (9 ≤ c.toNat && c.toNat ≤ 13)

/-- The decimal number that a text begins with. -/
def strtol (text : List Char) : Option Int :=
  let text := text.dropWhile isSpace
  let negative := text.head? = some '-'
  let digits := (if negative || text.head? = some '+' then text.tail else text).takeWhile Char.isDigit
  if digits = [] then none
  else
    let magnitude : Nat := digits.foldl (fun n c => 10 * n + (c.toNat - 48)) 0
    some (if negative then -magnitude else magnitude)

def stoi (text : List Char) : Option Int32 := do
  let n ← strtol text
  if -2 ^ 31 ≤ n ∧ n < 2 ^ 31 then some (.ofInt n) else none

/-- A number with a sign is negated in the type of the result. -/
def stoul (text : List Char) : Option UInt64 := do
  let n ← strtol text
  if n.natAbs < 2 ^ 64 then some (.ofInt n) else none

/-! ### Lines -/

def isBlank (c : Char) : Bool := c = ' ' || c = '\t' || c = '\r' || c = '\n'

def trim (s : List Char) : List Char := ((s.dropWhile isBlank).reverse.dropWhile isBlank).reverse

def stripQuotes (s : List Char) : List Char :=
  if 2 ≤ s.length ∧ s.head? = some '"' ∧ s.getLast? = some '"' then s.tail.dropLast else s

section

variable (stof : List Char → Option Float32)

/-- The key of a section is set to a value; a key that is not known is ignored. -/
def LoadedConfig.set (config : LoadedConfig) (section' key value : List Char) : Option LoadedConfig :=
  if section' = "server".toList then
    if key = "instance_id".toList then do
      let n ← stoul value
      some { config with instanceId := n.toUInt32 }
    else if key = "tick_rate".toList then do
      let n ← stoi value
      some { config with tickRate := n }
    else if key = "snapshot_interval_frames".toList then do
      let n ← stoi value
      some { config with snapshotIntervalFrames := n }
    else if key = "max_battles".toList then do
      let n ← stoul value
      some { config with maxBattles := n.toUInt32 }
    else if key = "max_sessions".toList then do
      let n ← stoul value
      some { config with maxSessions := n.toUInt32 }
    else if key = "load_report_interval".toList then do
      let x ← stof value
      some { config with loadReportInterval := x }
    else if key = "content_root".toList then some { config with contentRoot := stripQuotes value }
    else some config
  else if section' = "gateway".toList then
    if key = "host".toList then some { config with gatewayHost := stripQuotes value }
    else if key = "port".toList then do
      let n ← stoi value
      some { config with gatewayPort := n }
    else if key = "reconnect_interval".toList then do
      let x ← stof value
      some { config with reconnectInterval := x }
    else some config
  else some config

/-- What a line says. -/
inductive Line
  | nothing
  | section (name : List Char)
  | setting (key value : List Char)
deriving DecidableEq

def readLine (line : List Char) : Line :=
  let line := trim line
  if line = [] ∨ line.head? = some '#' then .nothing
  else if line.head? = some '[' ∧ line.getLast? = some ']' then .section line.tail.dropLast
  else if '=' ∈ line then
    .setting (trim (line.takeWhile (· ≠ '='))) (trim ((line.dropWhile (· ≠ '=')).tail))
  else .nothing

/-- The loop over the lines, with the section it is in. -/
def loadLines : List (List Char) → List Char → LoadedConfig → Option LoadedConfig
  | [], _, config => some config
  | line :: lines, name, config =>
      match readLine line with
      | .nothing => loadLines lines name config
      | .section name => loadLines lines name config
      | .setting key value => do
          let config ← config.set stof name key value
          loadLines lines name config

/-- The configuration for the content of the file, if it can be opened. -/
def loadBattleServerConfig : Option (List Char) → Option LoadedConfig
  | none => some {}
  | some text => loadLines stof (text.splitOn '\n') [] {}

end

/-- The last value of `tick_rate` in the lines, from a section on. -/
def lastTickRate : List (List Char) → List Char → Option (List Char)
  | [], _ => none
  | line :: lines, name =>
      match readLine line with
      | .nothing => lastTickRate lines name
      | .section name => lastTickRate lines name
      | .setting key value =>
          (lastTickRate lines name).or
            (if name = "server".toList ∧ key = "tick_rate".toList then some value else none)

/-- The value of `tick_rate` that counts. -/
def tickRateOf (file : Option (List Char)) : Option (List Char) :=
  file.bind fun text => lastTickRate (text.splitOn '\n') []

/-! ### What the server derives -/

/-- The quotient, truncated, unless the divisor is 0. -/
def divided (a b : Int) : Option Int := if b = 0 then none else some (a.tdiv b)

def modulo (a b : UInt32) : Option UInt32 := if b = 0 then none else some (a % b)

/-- How `float` rounds: numbers in its range keep their order, and powers of two are exact. -/
structure Rounding where
  round : ℚ → ℚ
  mono : MonotoneOn round (Set.Icc (-2 ^ 127) (2 ^ 127))
  exact : ∀ n : ℤ, -126 ≤ n → n ≤ 127 → round (2 ^ n) = 2 ^ n

theorem Rounding.between (F : Rounding) {m n : ℤ} {q : ℚ} (hm : -126 ≤ m) (hn : n ≤ 126) (hmn : m ≤ n)
    (hlow : 2 ^ m ≤ q) (hhigh : q ≤ 2 ^ n) : 2 ^ m ≤ F.round q ∧ F.round q ≤ 2 ^ n := by
  have hpow : (2 : ℚ) ^ n ≤ 2 ^ 127 := by
    have hle : (2 : ℚ) ^ n ≤ 2 ^ (127 : ℤ) := zpow_le_zpow_right₀ (by norm_num) (by omega)
    exact_mod_cast hle
  have hrange : ∀ x : ℚ, 2 ^ m ≤ x → x ≤ 2 ^ n → x ∈ Set.Icc (-2 ^ 127 : ℚ) (2 ^ 127) := by
    intro x hlow hhigh
    have hpos : (0 : ℚ) < 2 ^ m := by positivity
    exact ⟨(show (-2 ^ 127 : ℚ) ≤ 0 by norm_num).trans (hpos.le.trans hlow), hhigh.trans hpow⟩
  have hle : (2 : ℚ) ^ m ≤ 2 ^ n := hlow.trans hhigh
  constructor
  · rw [← F.exact m hm (by omega)]
    exact F.mono (hrange _ le_rfl hle) (hrange q hlow hhigh) hlow
  · rw [← F.exact n (by omega) (by omega)]
    exact F.mono (hrange q hlow hhigh) (hrange _ hle le_rfl) hhigh

namespace LoadedConfig

variable (config : LoadedConfig)

/-- `BattleServer::run`: the microseconds between two ticks. -/
def tickInterval : Option Int := divided 1000000 config.tickRate.toInt

/-- `BattleServer::run`: the seconds that a tick is told. -/
def tickStep (F : Rounding) : Option ℚ :=
  let rate := F.round config.tickRate.toInt
  if rate = 0 then none else some (F.round (1 / rate))

/-- `BattleServer::tick`: where a frame is between two snapshots. -/
def snapshotPhase (serverFrame : UInt32) : Option UInt32 :=
  let snapshotInterval : Int32 :=
    if config.snapshotIntervalFrames > 0 then config.snapshotIntervalFrames else 1
  modulo serverFrame snapshotInterval.toUInt32

/-- `BattleServer::sendLoadReport`. -/
def loadScore (roomCount : Nat) : Option UInt32 :=
  (if config.maxBattles = 0 then some 100
    else (divided (roomCount * 100 : Nat) config.maxBattles.toNat).map fun score => UInt32.ofNat score.toNat).map
      fun score => if score > 100 then 100 else score

/-- All that is derived is defined, and times are positive. -/
structure Scheduled (F : Rounding) : Prop where
  interval : ∃ us, config.tickInterval = some us ∧ 0 < us
  step : ∃ dt, config.tickStep F = some dt ∧ 0 < dt
  snapshot : ∀ serverFrame, (config.snapshotPhase serverFrame).isSome = true
  load : ∀ (World : Type) (s : BattleServer World), s.config = config.toBattleServerConfig →
    ∃ score accepting message, config.loadScore s.roomManager.roomCount = some score ∧ score ≤ 100 ∧
      s.loadReport = .reportLoad score accepting message

variable {config}

theorem tickInterval_pos : (∃ us, config.tickInterval = some us ∧ 0 < us) ↔
    1 ≤ config.tickRate.toInt ∧ config.tickRate.toInt ≤ 1000000 := by
  unfold tickInterval divided
  generalize config.tickRate.toInt = rate
  rcases lt_trichotomy rate 0 with hneg | rfl | hpos
  · have hquot : Int.tdiv 1000000 rate ≤ 0 := Int.tdiv_nonpos_of_nonneg_of_nonpos (by decide) hneg.le
    rw [if_neg hneg.ne]
    constructor
    · rintro ⟨us, hus, h⟩
      cases hus
      omega
    · intro h
      omega
  · simp
  · rw [if_neg hpos.ne', Int.tdiv_eq_ediv_of_nonneg (by decide)]
    have hle := Int.le_ediv_iff_mul_le (a := 1) (b := 1000000) hpos
    constructor
    · rintro ⟨us, hus, h⟩
      cases hus
      have := hle.1 h
      omega
    · intro h
      exact ⟨_, rfl, hle.2 (by omega)⟩

theorem tickStep_pos (F : Rounding) (h : 1 ≤ config.tickRate.toInt) :
    ∃ dt, config.tickStep F = some dt ∧ 0 < dt := by
  have hmax : config.tickRate.toInt < 2 ^ 31 := Int32.toInt_lt _
  have hlow : (2 : ℚ) ^ (0 : ℤ) ≤ config.tickRate.toInt := by
    rw [zpow_zero]
    exact_mod_cast h
  have hhigh : (config.tickRate.toInt : ℚ) ≤ 2 ^ (31 : ℤ) := by exact_mod_cast hmax.le
  unfold tickStep
  generalize (config.tickRate.toInt : ℚ) = rate at hlow hhigh ⊢
  obtain ⟨hrate, hrate'⟩ := F.between (by decide) (by decide) (by decide) hlow hhigh
  rw [zpow_zero] at hrate
  have hpos : 0 < F.round rate := lt_of_lt_of_le one_pos hrate
  have hquot : (2 : ℚ) ^ (-31 : ℤ) ≤ 1 / F.round rate := by
    rw [zpow_neg, ← one_div]
    exact one_div_le_one_div_of_le hpos hrate'
  have hone : 1 / F.round rate ≤ (2 : ℚ) ^ (0 : ℤ) := by
    rw [zpow_zero, div_le_one hpos]
    exact hrate
  obtain ⟨hstep, -⟩ := F.between (by decide) (by decide) (by decide) hquot hone
  exact ⟨F.round (1 / F.round rate), if_neg hpos.ne', lt_of_lt_of_le (by positivity) hstep⟩

theorem snapshotPhase_isSome (serverFrame : UInt32) : (config.snapshotPhase serverFrame).isSome = true := by
  unfold snapshotPhase
  have hdivisor : (if config.snapshotIntervalFrames > 0 then config.snapshotIntervalFrames else 1).toUInt32 ≠ 0 := by
    split_ifs with h
    · intro hzero
      have hsame : config.snapshotIntervalFrames = 0 := Int32.toBitVec_inj.1 (congrArg UInt32.toBitVec hzero)
      rw [hsame] at h
      exact absurd h (by decide)
    · decide
  unfold modulo
  rw [if_neg hdivisor]
  rfl

theorem loadScore_spec {World : Type} (s : BattleServer World) (h : s.config = config.toBattleServerConfig) :
    ∃ score accepting message, config.loadScore s.roomManager.roomCount = some score ∧ score ≤ 100 ∧
      s.loadReport = .reportLoad score accepting message := by
  have hle : ∀ score : UInt32, (if score > 100 then 100 else score) ≤ 100 := by
    intro score
    split_ifs with hscore
    · exact UInt32.le_refl _
    · exact UInt32.not_lt.1 hscore
  unfold loadScore BattleServer.loadReport
  rw [h]
  split_ifs with hzero
  · exact ⟨_, _, _, rfl, hle 100, rfl⟩
  · have hdivisor : (config.maxBattles.toNat : Int) ≠ 0 := by
      intro hnat
      exact hzero (UInt32.toNat_inj.1 (Int.natCast_eq_zero.1 hnat))
    have hquot : (Int.tdiv (s.roomManager.roomCount * 100 : Nat) config.maxBattles.toNat).toNat =
        s.roomManager.roomCount * 100 / config.maxBattles.toNat := by
      rw [← Int.ofNat_tdiv]
      rfl
    unfold divided
    rw [if_neg hdivisor]
    simp only [Option.map_some, hquot]
    exact ⟨_, _, _, rfl, hle _, rfl⟩

theorem scheduled_iff_tickRate (F : Rounding) :
    config.Scheduled F ↔ 1 ≤ config.tickRate.toInt ∧ config.tickRate.toInt ≤ 1000000 := by
  constructor
  · intro h
    exact tickInterval_pos.1 h.interval
  · intro h
    exact ⟨tickInterval_pos.2 h, tickStep_pos F h.1, snapshotPhase_isSome, fun _ s hs => loadScore_spec s hs⟩

/-! ### The tick rate that is read -/

theorem tickRate_of_bind {α : Type} {x : Option α} {f : α → LoadedConfig} {config' : LoadedConfig}
    (h : (x.bind fun a => some (f a)) = some config') (hf : ∀ a, (f a).tickRate = config.tickRate) :
    config'.tickRate = config.tickRate := by
  obtain ⟨a, -, heq⟩ := Option.bind_eq_some_iff.1 h
  cases heq
  exact hf a

variable {stof : List Char → Option Float32} {name key value : List Char} {config' : LoadedConfig}

theorem set_tickRate (h : config.set stof name "tick_rate".toList value = some config')
    (hname : name = "server".toList) : stoi value = some config'.tickRate := by
  unfold set at h
  rw [if_pos hname, if_neg (by decide), if_pos rfl] at h
  obtain ⟨rate, hrate, heq⟩ := Option.bind_eq_some_iff.1 h
  cases heq
  exact hrate

theorem set_other (h : config.set stof name key value = some config')
    (hother : ¬ (name = "server".toList ∧ key = "tick_rate".toList)) : config'.tickRate = config.tickRate := by
  have hkeep : ∀ {c : LoadedConfig}, some c = some config' → c.tickRate = config.tickRate →
      config'.tickRate = config.tickRate := fun heq hc => Option.some.inj heq ▸ hc
  unfold set at h
  by_cases hserver : name = "server".toList
  · have hrate : key ≠ "tick_rate".toList := fun hkey => hother ⟨hserver, hkey⟩
    rw [if_pos hserver] at h
    split_ifs at h
    all_goals first
      | exact tickRate_of_bind h fun _ => rfl
      | exact hkeep h rfl
  · rw [if_neg hserver] at h
    split_ifs at h
    all_goals first
      | exact tickRate_of_bind h fun _ => rfl
      | exact hkeep h rfl

theorem tickRate_of_loadLines {lines : List (List Char)} (h : loadLines stof lines name config = some config') :
    match lastTickRate lines name with
    | some value => stoi value = some config'.tickRate
    | none => config'.tickRate = config.tickRate := by
  induction lines generalizing name config with
  | nil =>
      cases h
      rfl
  | cons line lines ih =>
      rw [loadLines] at h
      rw [lastTickRate]
      revert h
      rcases readLine line with _ | name' | ⟨key, value⟩
      · exact ih
      · exact ih
      · intro h
        obtain ⟨config₁, hset, h⟩ := Option.bind_eq_some_iff.1 h
        have hrest := ih h
        dsimp only
        revert hrest
        rcases lastTickRate lines name with _ | last
        · intro (hrest : config'.tickRate = config₁.tickRate)
          rw [Option.none_or, hrest]
          split_ifs with hrate
          · obtain ⟨hname, rfl⟩ := hrate
            exact set_tickRate hset hname
          · exact set_other hset hrate
        · exact id

end LoadedConfig

/-- The configurations that give the server a schedule: those whose tick rate is from 1 to 1000000. -/
theorem scheduled_iff (F : Rounding) {stof : List Char → Option Float32} {file : Option (List Char)}
    {config : LoadedConfig} (h : loadBattleServerConfig stof file = some config) :
    config.Scheduled F ↔ ∀ value, tickRateOf file = some value →
      ∃ rate, stoi value = some rate ∧ 1 ≤ rate.toInt ∧ rate.toInt ≤ 1000000 := by
  rw [LoadedConfig.scheduled_iff_tickRate]
  rcases file with _ | text
  · cases h
    exact iff_of_true (by decide) nofun
  · have hrate := LoadedConfig.tickRate_of_loadLines h
    show _ ↔ ∀ value, lastTickRate (text.splitOn '\n') [] = some value → _
    revert hrate
    rcases lastTickRate (text.splitOn '\n') [] with _ | value
    · intro hrate
      rw [show config.tickRate = 30 from hrate]
      exact iff_of_true (by decide) nofun
    · intro (hrate : stoi value = some config.tickRate)
      constructor
      · intro hrange _ heq
        cases heq
        exact ⟨config.tickRate, hrate, hrange⟩
      · intro hrange
        obtain ⟨rate, hstoi, hrange⟩ := hrange value rfl
        rw [hrate] at hstoi
        cases hstoi
        exact hrange

namespace Sample

/-- No rounding, as for the powers of two. -/
def unrounded : Rounding := ⟨id, monotone_id.monotoneOn _, fun _ _ _ => rfl⟩

/-- A section with a tick rate. -/
def tickRateFile (value : String) : List Char := ("[server]\ntick_rate = ".toList ++ value.toList)

end Sample

theorem scheduled_iff_sixtyFour : ∃ config,
    loadBattleServerConfig (fun _ => none) (some (Sample.tickRateFile "64")) = some config ∧
      config.Scheduled Sample.unrounded ∧ config.tickInterval = some 15625 := by
  have hload : loadBattleServerConfig (fun _ => none) (some (Sample.tickRateFile "64")) =
      some { tickRate := 64 } := rfl
  refine ⟨_, hload, (scheduled_iff Sample.unrounded hload).2 fun value hvalue => ?_, rfl⟩
  have hread : tickRateOf (some (Sample.tickRateFile "64")) = some "64".toList := rfl
  rw [hread] at hvalue
  cases hvalue
  exact ⟨64, rfl, by decide⟩

/-- A rate of `0.5` is read as 0, and one of two million leaves no time between two ticks. -/
theorem tickRate_unscheduled : (∃ config,
    loadBattleServerConfig (fun _ => none) (some (Sample.tickRateFile "0.5")) = some config ∧
      ¬ config.Scheduled Sample.unrounded) ∧
    ∃ config, loadBattleServerConfig (fun _ => none) (some (Sample.tickRateFile "2000000")) = some config ∧
      ¬ config.Scheduled Sample.unrounded := by
  refine ⟨⟨{ tickRate := 0 }, rfl, fun h => ?_⟩, { tickRate := 2000000 }, rfl, fun h => ?_⟩
  · have hrange := (LoadedConfig.scheduled_iff_tickRate Sample.unrounded).1 h
    exact absurd hrange (by decide)
  · have hrange := (LoadedConfig.scheduled_iff_tickRate Sample.unrounded).1 h
    exact absurd hrange (by decide)

end AxmolFighter.Battle
