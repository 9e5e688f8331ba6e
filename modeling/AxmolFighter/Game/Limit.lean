import AxmolFighter.Game.CharacterTables
import AxmolFighter.Lib.Threads

/-!
# The character limit

`handle_create_character` of `player/character.rs`: the limit and the number of the account's characters
are read by two statements before a third inserts the row, and other calls run between them. A query that
fails counts as a limit of ten, or as no characters at all. Any statement may fail, and an insert that fails
may have been executed; the name is unique.

An insert keeps the limit if what its call has read still holds.
-/

namespace AxmolFighter.Game

/-! ### `fashion_defaults.rs` -/

def hairIds : List (List Int32) := [
  [101004, 101044, 101054, 101064, 101074],
  [102004, 102044, 102054, 102064, 102074],
  [32000, 32001, 32002, 32004, 32005],
  [104004, 104044, 104054, 104064, 104074]]

def clothesIds : List (List Int32) := [
  [101002, 101042, 101052, 101062, 101072],
  [102002, 102042, 102052, 102062, 102072],
  [31000, 31001, 31002, 31004, 31005],
  [104002, 104042, 104052, 104062, 104072]]

def skinIds : List (List Int32) := [
  [101007, 101047, 101057, 101067, 101077],
  [102007, 102047, 102057, 102067, 102077],
  [37000, 37001, 37002, 37004, 37005],
  [104007, 104047, 104057, 104067, 104077]]

structure CreateAppearance where
  hairId : Int32
  clothesId : Int32
  skinId : Int32

def classIndex (classId : Int32) : Option Nat :=
  let i := classId.toInt - 1
  if 0 ≤ i ∧ i < 4 then some i.toNat else none

/-- The skin is that of the clothes. -/
def resolveCreateAppearance (classId hairId clothesId : Int32) : Option CreateAppearance := do
  let idx ← classIndex classId
  let hairs ← hairIds[idx]?
  let clothes ← clothesIds[idx]?
  let skins ← skinIds[idx]?
  let _ ← hairs.idxOf? hairId
  let variant ← clothes.idxOf? clothesId
  let skinId ← skins[variant]?
  some { hairId, clothesId, skinId }

/-! ### The statements -/

structure CreateCharacterReq where
  name : String
  classId : Int32
  gender : Int32
  hairId : Int32
  clothesId : Int32

structure CreateCharacterResp where
  code : Int32
  message : String
  character : Option CharacterInfo
deriving DecidableEq

inductive InsertError
  | uniqueViolation
  | other (message : String)

inductive CreateOp
  | maxCharacterCount
  | characterCount (playerId : Int64)
  | insertCharacter (playerId : Int64) (row : CharacterRow)
  | insertEquipment (row : EquipmentRow)
  | fashions (characterId : Int64)
  | equipments (characterId : Int64)

@[reducible] def CreateOp.Answer : CreateOp → Type
  | maxCharacterCount => Except String (Option Int64)
  | characterCount _ => Except String Nat
  | insertCharacter .. => Except InsertError (Int64 × CharacterRow)
  | insertEquipment _ => Bool
  | fashions _ => Except String (List FashionInfo)
  | equipments _ => Except String (List EquipmentInfo)

@[reducible] def createOps : Signature := ⟨CreateOp, CreateOp.Answer⟩

abbrev CreateOp.perform (op : CreateOp) : Program createOps op.Answer := Program.perform (S := createOps) op

/-- `query_max_character_count`, once the query is answered. -/
def limitRead : Except String (Option Int64) → Int32
  | .ok (some v) => v.toInt32
  | _ => 10

def countRead : Except String Nat → Nat
  | .ok n => n
  | .error _ => 0

def loadCharacterLists (characterId : Int64) : Program createOps (List FashionInfo × List EquipmentInfo) := do
  let fashions ← CreateOp.perform (.fashions characterId)
  let equipments ← CreateOp.perform (.equipments characterId)
  pure (fashions.toOption.getD [], equipments.toOption.getD [])

def characterToProto (characterId : Int64) (row : CharacterRow) (fashions : List FashionInfo)
    (equipments : List EquipmentInfo) (progress : CharacterProgress) : CharacterInfo where
  characterId
  name := row.name
  classId := row.classId
  gender := row.gender
  level := row.level
  exp := row.exp
  gold := row.gold
  defaultSkins := defaultSkinsFromIds row.hairFashionId row.clothesFashionId row.skinFashionId
  fashions
  equipments
  armaments := progress.armaments
  armamentAppearanceId := progress.armamentAppearanceId
  skillSlots := progress.skillSlots
  pets := progress.pets
  activePetId := progress.activePetId
  partners := progress.partners
  activePartnerId := progress.activePartnerId

/-- The columns that the handler inserts; the others have their defaults. -/
def CreateCharacterReq.row (req : CreateCharacterReq) (appearance : CreateAppearance) : CharacterRow where
  name := req.name
  classId := req.classId
  gender := req.gender
  hairFashionId := appearance.hairId
  clothesFashionId := appearance.clothesId
  skinFashionId := appearance.skinId

/-- The rest of the handler for a row that is inserted. -/
def equipCharacter (id : Int64) (row : CharacterRow) : Program createOps CreateCharacterResp := do
  Program.forEach (fun (slot : Int32) => do
    let _ ← CreateOp.perform (.insertEquipment
      { ownerCharacterId := id, configId := 0, enhanceLevel := 0, refineLevel := 0, slot })) [0, 1, 2, 3, 4, 5]
  let (fashions, equipments) ← loadCharacterLists id
  pure { code := 0, message := "", character := some (characterToProto id row fashions equipments {}) }

def handleCreateCharacter (accountId : Option Int64) (req : CreateCharacterReq) :
    Program createOps CreateCharacterResp :=
  match accountId with
  | none => pure { code := 401, message := "请先登录", character := none }
  | some accountId =>
      match resolveCreateAppearance req.classId req.hairId req.clothesId with
      | none => pure { code := 3, message := "头饰或服饰无效", character := none }
      | some appearance => do
          let maxCount := limitRead (← CreateOp.perform .maxCharacterCount)
          let currentCount := countRead (← CreateOp.perform (.characterCount accountId))
          if maxCount.toInt ≤ currentCount then
            pure { code := 2, message := "角色数量已达上限", character := none }
          else
            match ← CreateOp.perform (.insertCharacter accountId (req.row appearance)) with
            | .ok (id, row) => equipCharacter id row
            | .error .uniqueViolation => pure { code := 1, message := "角色名已存在", character := none }
            | .error (.other _) => pure { code := -1, message := "服务器内部错误", character := none }

/-! ### Calls that run side by side -/

/-- The rows of `server_settings`, `characters`, `equipments` and `character_fashions`. -/
structure CharacterStore where
  maxCharacterCount : Option Int64
  characters : Serial (Int64 × CharacterRow) := ∅
  equipments : Serial EquipmentRow := ∅
  fashions : Serial FashionRow := ∅

namespace CharacterStore

variable (db : CharacterStore)

/-- `SELECT COUNT(1) FROM characters WHERE player_id = …`. -/
def characterCount (playerId : Int64) : Nat := db.characters.rows.count fun row => row.1 = playerId

def hasName (name : String) : Bool := db.characters.rows.count (fun row => row.2.name = name) ≠ 0

def insertCharacter (playerId : Int64) (row : CharacterRow) : CharacterStore :=
  { db with characters := db.characters.insert (playerId, row) }

def fashionsOf (characterId : Int64) : List FashionInfo :=
  (db.fashions.select fun row => row.characterId = characterId).map fun e => e.2.toInfo e.1

def equipmentsOf (characterId : Int64) : List EquipmentInfo :=
  (db.equipments.select fun row => row.ownerCharacterId = characterId).map fun e => e.2.toInfo e.1

/-- What a statement may answer and make of the database. -/
def Does : (op : CreateOp) → op.Answer → CharacterStore → Prop
  | .maxCharacterCount, answer, db' =>
      db' = db ∧ (answer = .ok db.maxCharacterCount ∨ ∃ e, answer = .error e)
  | .characterCount playerId, answer, db' =>
      db' = db ∧ (answer = .ok (db.characterCount playerId) ∨ ∃ e, answer = .error e)
  | .insertCharacter playerId row, answer, db' =>
      match answer with
      | .ok (id, inserted) => db.hasName row.name = false ∧ id = .ofNat db.characters.nextId ∧ inserted = row ∧
          db' = db.insertCharacter playerId row
      | .error .uniqueViolation => db.hasName row.name = true ∧ db' = db
      | .error (.other _) =>
          db' = db ∨ (db.hasName row.name = false ∧ db' = db.insertCharacter playerId row)
  | .insertEquipment row, _, db' => db' = db ∨ db' = { db with equipments := db.equipments.insert row }
  | .fashions characterId, answer, db' =>
      db' = db ∧ (answer = .ok (db.fashionsOf characterId) ∨ ∃ e, answer = .error e)
  | .equipments characterId, answer, db' =>
      db' = db ∧ (answer = .ok (db.equipmentsOf characterId) ∨ ∃ e, answer = .error e)

end CharacterStore

/-- A session, current or displaced, and its last answer. -/
structure Creator where
  accountId : Option Int64
  resp : Option CreateCharacterResp := none

/-- Sessions that create characters, interleaved at the statements of their calls. -/
def creating : ThreadSystem createOps CharacterStore Creator CreateCharacterReq where
  does := CharacterStore.Does
  handle l req := some do
    let resp ← handleCreateCharacter l.accountId req
    pure { l with resp := some resp }
  opens db _ _ db' := db' = db
  environment _ _ := False

abbrev CreateEvent := Pool.Event createOps Creator CreateCharacterReq

abbrev CreateTrace := List (Pool createOps CharacterStore Creator × CreateEvent)

/-- How many characters the account had when the session last counted them. -/
def countedAfter (k : Nat) (last : Option Nat)
    (x : Pool createOps CharacterStore Creator × CreateEvent) : Option Nat :=
  match x.2 with
  | .call k' ⟨.characterCount playerId, _⟩ => if k' = k then some (x.1.shared.characterCount playerId) else last
  | _ => last

def counted (k : Nat) (trace : CreateTrace) : Option Nat := trace.foldl (countedAfter k) none

/-- The stored limit is above the bound. -/
def CharacterStore.Allows (db : CharacterStore) (bound : Int) : Prop :=
  ∀ v, db.maxCharacterCount = some v → bound ≤ v.toInt

/-- What a call reads still holds when it is used: the limit fits into 32 bits, or is at least the ten that
stand in for it; a count only fails while there is room for one more; and no character of the account is
inserted between the count of a call and its insert. -/
def Reliable (trace : CreateTrace) (x : Pool createOps CharacterStore Creator × CreateEvent) : Prop :=
  match x.2 with
  | .call _ ⟨.maxCharacterCount, .ok (some v)⟩ => -2 ^ 31 ≤ v.toInt
  | .call _ ⟨.maxCharacterCount, _⟩ => x.1.shared.Allows 10
  | .call _ ⟨.characterCount playerId, .error _⟩ => x.1.shared.Allows (x.1.shared.characterCount playerId + 1)
  | .call _ ⟨.insertCharacter _ _, .error .uniqueViolation⟩ => True
  | .call k ⟨.insertCharacter playerId _, _⟩ => counted k trace = some (x.1.shared.characterCount playerId)
  | _ => True

/-! ### The conduct of a call -/

/-- How far a call has come: it has read a limit, or has found that the account may have another character. -/
inductive CreateState
  | idle
  | limited (limit : Int32)
  | admitted (playerId : Int64) (limit : Int32) (count : Nat)

/-- The statements after the insert. -/
def CreateOp.isLate : CreateOp → Bool
  | .insertEquipment _ | .fashions _ | .equipments _ => true
  | _ => false

inductive CreateMoves : CreateState → (op : createOps.Op) → createOps.Answer op → CreateState → Prop
  | limit (answer : Except String (Option Int64)) :
      CreateMoves .idle .maxCharacterCount answer (.limited (limitRead answer))
  | refused {limit : Int32} {playerId : Int64} {answer : Except String Nat}
      (h : limit.toInt ≤ countRead answer) : CreateMoves (.limited limit) (.characterCount playerId) answer .idle
  | admitted {limit : Int32} {playerId : Int64} {answer : Except String Nat}
      (h : (countRead answer : Int) < limit.toInt) : CreateMoves (.limited limit) (.characterCount playerId) answer
        (.admitted playerId limit (countRead answer))
  | insert {limit : Int32} {playerId : Int64} {count : Nat} {row : CharacterRow}
      {answer : Except InsertError (Int64 × CharacterRow)} :
      CreateMoves (.admitted playerId limit count) (.insertCharacter playerId row) answer .idle
  | late {op : createOps.Op} {answer : createOps.Answer op} (h : op.isLate = true) :
      CreateMoves .idle op answer .idle

theorem equipCharacter_calls (id : Int64) (row : CharacterRow) :
    (equipCharacter id row).Calls fun op : CreateOp => op.isLate = true := by
  refine (Program.Calls.forEach fun slot _ => ?_).bind fun _ => ?_
  · exact .call rfl fun _ => .ret _
  · exact .call rfl fun _ => .call rfl fun _ => .ret _

theorem handleCreateCharacter_follows (accountId : Option Int64) (req : CreateCharacterReq) :
    (handleCreateCharacter accountId req).Follows CreateMoves (fun q _ => q = .idle) .idle := by
  unfold handleCreateCharacter
  split
  · exact .ret rfl
  · rename_i playerId
    split
    · exact .ret rfl
    · rename_i appearance _
      refine .call _ CreateMoves.limit fun limitAnswer => ?_
      refine .call (fun answer => if (limitRead limitAnswer).toInt ≤ countRead answer then .idle
        else .admitted playerId (limitRead limitAnswer) (countRead answer)) (fun answer => ?_) fun answer => ?_
      · split_ifs with hfull
        · exact .refused hfull
        · exact .admitted (by omega)
      · show Program.Follows _ _ _ (if _ then _ else _)
        split_ifs with hfull
        · exact .ret rfl
        · refine .perform_bind (fun _ => .idle) (fun _ => CreateMoves.insert) fun inserted => ?_
          rcases inserted with (_ | _) | ⟨id, row⟩
          · exact .ret rfl
          · exact .ret rfl
          · exact Program.Follows.of_calls (equipCharacter_calls id row) fun _ _ h => .late h

/-- The sessions in terms of that conduct. -/
def createGuide : Pool.Guide creating CreateState where
  moves := CreateMoves
  stops q _ := q = .idle
  fresh _ _ := .idle
  begins _ _ q' := q' = .idle
  fresh_stops _ _ _ _ _ := rfl
  follows _ l req p _ hp := by
    obtain rfl := Option.some.inj hp
    exact ⟨.idle, rfl, (handleCreateCharacter_follows l.accountId req).bind fun _ _ h => .ret h⟩

/-! ### Statements -/

namespace CharacterStore

variable {db db' : CharacterStore}

theorem Does.maxCharacterCount_eq {op : CreateOp} {answer : op.Answer} (h : db.Does op answer db') :
    db'.maxCharacterCount = db.maxCharacterCount := by
  cases op with
  | maxCharacterCount | characterCount _ | fashions _ | equipments _ => rw [h.1]
  | insertCharacter playerId row =>
      rcases answer with (_ | _) | ⟨id, inserted⟩
      · rw [h.2]
      · rcases h with rfl | ⟨-, rfl⟩ <;> rfl
      · rw [h.2.2.2]
        rfl
  | insertEquipment row => rcases h with rfl | rfl <;> rfl

theorem Does.allows {op : CreateOp} {answer : op.Answer} (h : db.Does op answer db') {bound : Int} :
    db'.Allows bound ↔ db.Allows bound := by
  rw [Allows, h.maxCharacterCount_eq, Allows]

theorem characterCount_insert (playerId : Int64) (row : CharacterRow) :
    (db.insertCharacter playerId row).characterCount playerId ≤ db.characterCount playerId + 1 := by
  have hle := Table.count_remove_le db.characters.rows db.characters.nextId fun row => row.1 = playerId
  unfold characterCount insertCharacter Serial.insert
  rw [Table.count_insert]
  split_ifs <;> omega

theorem Does.inserts {playerId : Int64} {row : CharacterRow}
    {answer : (CreateOp.insertCharacter playerId row).Answer} (h : db.Does (.insertCharacter playerId row) answer db') :
    db'.characterCount playerId ≤ db.characterCount playerId + 1 ∧
      (answer = .error .uniqueViolation → db' = db) := by
  rcases answer with (_ | _) | ⟨id, inserted⟩
  · obtain ⟨-, rfl⟩ := h
    exact ⟨by omega, fun _ => rfl⟩
  · refine ⟨?_, nofun⟩
    rcases h with rfl | ⟨-, rfl⟩
    · omega
    · exact characterCount_insert ..
  · obtain ⟨-, -, -, rfl⟩ := h
    exact ⟨characterCount_insert .., nofun⟩

theorem Allows.mono {bound bound' : Int} (h : db.Allows bound) (hle : bound' ≤ bound) : db.Allows bound' :=
  fun v hv => hle.trans (h v hv)

end CharacterStore

theorem toInt32_le {v : Int64} (h : -2 ^ 31 ≤ v.toInt) : v.toInt32.toInt ≤ v.toInt := by
  rw [Int64.toInt_toInt32]
  by_cases hlt : v.toInt < 2 ^ 31
  · rw [Int.bmod_eq_of_le (by omega) (by omega)]
  · have hbound := @Int.bmod_lt v.toInt (2 ^ 32) (by decide)
    omega

/-! ### Runs -/

/-- What a call has come to is backed by the database. -/
def Backed (trace : CreateTrace) (db : CharacterStore) (k : Nat) : CreateState → Prop
  | .idle => True
  | .limited limit => db.Allows limit.toInt
  | .admitted _ limit count => db.Allows limit.toInt ∧ (count : Int) < limit.toInt ∧
      ∃ n, counted k trace = some n ∧ (n ≤ count ∨ db.Allows (n + 1))

theorem Backed.admits {trace : CreateTrace} {db : CharacterStore} {k : Nat} {playerId : Int64} {limit : Int32}
    {count : Nat} (h : Backed trace db k (.admitted playerId limit count))
    (hcounted : counted k trace = some (db.characterCount playerId)) :
    db.Allows (db.characterCount playerId + 1) := by
  obtain ⟨hallows, hlt, n, hn, hle⟩ := h
  obtain rfl := Option.some.inj (hn.symm.trans hcounted)
  rcases hle with hle | hle
  · exact hallows.mono (by omega)
  · exact hle

def AllReliable (trace : CreateTrace) : Prop := ∀ l x l', trace = l ++ x :: l' → Reliable l x

theorem AllReliable.last {trace : CreateTrace} {x : Pool createOps CharacterStore Creator × CreateEvent}
    (h : AllReliable (trace ++ [x])) : AllReliable trace ∧ Reliable trace x := by
  refine ⟨?_, h trace x [] rfl⟩
  rintro l y l' rfl
  exact h l y (l' ++ [x]) (by simp)

theorem counted_snoc (k : Nat) (trace : CreateTrace) (x : Pool createOps CharacterStore Creator × CreateEvent) :
    counted k (trace ++ [x]) = countedAfter k (counted k trace) x := by
  rw [counted, List.foldl_append]
  rfl

theorem countedAfter_other {k k' : Nat} (hne : k' ≠ k) (last : Option Nat)
    (pool : Pool createOps CharacterStore Creator) (c : createOps.Call) :
    countedAfter k last (pool, .call k' c) = last := by
  obtain ⟨op, answer⟩ := c
  cases op with
  | characterCount playerId => exact if_neg hne
  | maxCharacterCount | insertCharacter _ _ | insertEquipment _ | fashions _ | equipments _ => rfl

theorem Backed.frame {trace : CreateTrace} {db db' : CharacterStore} {k : Nat} {q : CreateState}
    {x : Pool createOps CharacterStore Creator × CreateEvent} (h : Backed trace db k q)
    (hcounted : countedAfter k (counted k trace) x = counted k trace)
    (hallows : ∀ bound, db.Allows bound → db'.Allows bound) : Backed (trace ++ [x]) db' k q := by
  cases q with
  | idle => trivial
  | limited limit => exact hallows _ h
  | admitted playerId limit count =>
      obtain ⟨hlimit, hlt, n, hn, hle⟩ := h
      refine ⟨hallows _ hlimit, hlt, n, ?_, hle.imp_right (hallows _)⟩
      rw [counted_snoc, hcounted, hn]

/-- A call whose reads are reliable is backed by what it reads. -/
theorem Backed.move {trace : CreateTrace} {pool : Pool createOps CharacterStore Creator} {db' : CharacterStore}
    {k : Nat} {q q' : CreateState} {op : CreateOp} {answer : op.Answer} (h : Backed trace pool.shared k q)
    (hmoves : CreateMoves q op answer q') (hdoes : pool.shared.Does op answer db')
    (hok : Reliable trace (pool, .call k ⟨op, answer⟩)) :
    Backed (trace ++ [(pool, .call k ⟨op, answer⟩)]) db' k q' := by
  cases hmoves with
  | insert | late _ | refused _ => trivial
  | limit =>
      show db'.Allows _
      rw [hdoes.allows]
      obtain ⟨-, rfl | ⟨e, rfl⟩⟩ := hdoes
      · rcases hmax : pool.shared.maxCharacterCount with _ | v
        · intro w hw
          rw [hmax] at hw
          cases hw
        · intro w hw
          obtain rfl := Option.some.inj (hmax.symm.trans hw)
          rw [hmax] at hok
          exact toInt32_le hok
      · exact hok
  | @admitted limit playerId _ hlt =>
      have hallows : db'.Allows limit.toInt := hdoes.allows.2 h
      obtain ⟨rfl, rfl | ⟨e, rfl⟩⟩ := hdoes
      · refine ⟨hallows, hlt, _, ?_, Or.inl (Nat.le_refl _)⟩
        rw [counted_snoc]
        exact if_pos rfl
      · refine ⟨hallows, hlt, _, ?_, Or.inr hok⟩
        rw [counted_snoc]
        exact if_pos rfl

theorem backed_of_run {db : CharacterStore} {trace : CreateTrace} {pool : Pool createOps CharacterStore Creator}
    (hrun : Run (Pool.Step creating) ⟨db, []⟩ trace pool) (hok : AllReliable trace) :
    ∃ qs, createGuide.Tracks qs pool.threads ∧ ∀ k q, qs[k]? = some q → Backed trace pool.shared k q := by
  have hkeep : ∀ trace pool qs e db' qs', createGuide.Tracks qs pool.threads →
      (AllReliable trace → ∀ k q, qs[k]? = some q → Backed trace pool.shared k q) → True →
        createGuide.Step (pool.shared, qs) e (db', qs') →
          AllReliable (trace ++ [(pool, e)]) → ∀ k q, qs'[k]? = some q → Backed (trace ++ [(pool, e)]) db' k q := by
    intro trace pool qs e db' qs' _ ih _ hstep hok k q hk
    obtain ⟨hbefore, hlast⟩ := hok.last
    have ih := ih hbefore
    cases hstep with
    | opens hopens =>
        obtain rfl := hopens
        rcases lt_or_ge k qs.length with hlt | hge
        · rw [List.getElem?_append_left hlt] at hk
          exact (ih k q hk).frame rfl fun _ => id
        · rw [List.getElem?_append_right hge, List.getElem?_singleton] at hk
          split_ifs at hk
          obtain rfl := Option.some.inj hk
          trivial
    | input hold _ _ hbegins =>
        rw [Pool.Guide.get_set hold] at hk
        split_ifs at hk
        · rw [← Option.some.inj hk, show _ = CreateState.idle from hbegins]
          trivial
        · exact (ih k q hk).frame rfl fun _ => id
    | @call _ _ _ k' old new op answer hold hmoves hdoes =>
        rw [Pool.Guide.get_set hold] at hk
        split_ifs at hk with heq
        · obtain rfl := Option.some.inj hk
          rw [heq]
          exact (ih k' old hold).move hmoves hdoes hlast
        · exact (ih k q hk).frame (countedAfter_other (Ne.symm heq) _ _ _) fun _ => hdoes.allows.2
    | environment h => cases h
  obtain ⟨qs, htracks, hinv⟩ := createGuide.invariant rfl hrun (fun _ _ => True) (fun _ _ => trivial)
    (fun trace db qs => AllReliable trace → ∀ k q, qs[k]? = some q → Backed trace db k q)
    (fun _ k q hk => by cases hk) hkeep
  exact ⟨qs, htracks, hinv hok⟩

/-- In a run whose calls still hold what they have read, no insert brings the characters of an account above
the stored limit. -/
theorem limit_of_run (db : CharacterStore) (trace : CreateTrace) (pool : Pool createOps CharacterStore Creator)
    (hrun : Run (Pool.Step creating) ⟨db, []⟩ trace pool) (hok : AllReliable trace) :
    ∀ before after k playerId row answer pool₀ pool₁,
      trace = before ++ (pool₀, .call k ⟨.insertCharacter playerId row, answer⟩) :: after →
        Pool.Step creating pool₀ (.call k ⟨.insertCharacter playerId row, answer⟩) pool₁ →
          pool₁.shared.characterCount playerId ≤ pool₀.shared.characterCount playerId ∨
            pool₁.shared.Allows (pool₁.shared.characterCount playerId) := by
  intro before after k playerId row answer pool₀ pool₁ htrace hstep
  have hbefore : AllReliable before := by
    rintro l x l' rfl
    exact hok l x (l' ++ (pool₀, .call k ⟨.insertCharacter playerId row, answer⟩) :: after) (by rw [htrace]; simp)
  have hlast := hok before _ after htrace
  obtain ⟨qs, htracks, hbacked⟩ := backed_of_run (hrun.split htrace).1 hbefore
  obtain ⟨qs', hguided, -⟩ := Pool.Guide.simulates htracks hstep
  cases hguided with
  | call hk hmoves hdoes =>
      have hdoes : pool₀.shared.Does (.insertCharacter playerId row) answer pool₁.shared := hdoes
      obtain ⟨hle, hrefused⟩ := hdoes.inserts
      by_cases hanswer : answer = .error .uniqueViolation
      · rw [hrefused hanswer]
        exact Or.inl (Nat.le_refl _)
      · right
        have hcounted : counted k before = some (pool₀.shared.characterCount playerId) := by
          rcases answer with (_ | _) | _
          · exact absurd rfl hanswer
          · exact hlast
          · exact hlast
        cases hmoves with
        | insert =>
            have hallows : pool₀.shared.Allows (pool₀.shared.characterCount playerId + 1) :=
              (hbacked k _ hk).admits hcounted
            exact hdoes.allows.2 (hallows.mono (by omega))
        | late h => cases h

/-- A database whose statements all succeed. -/
def CharacterStore.exec (db : CharacterStore) : (op : CreateOp) → op.Answer × CharacterStore
  | .maxCharacterCount => (.ok db.maxCharacterCount, db)
  | .characterCount playerId => (.ok (db.characterCount playerId), db)
  | .insertCharacter playerId row =>
      if db.hasName row.name then (.error .uniqueViolation, db)
      else (.ok (.ofNat db.characters.nextId, row), db.insertCharacter playerId row)
  | .insertEquipment row => (true, { db with equipments := db.equipments.insert row })
  | .fashions characterId => (.ok (db.fashionsOf characterId), db)
  | .equipments characterId => (.ok (db.equipmentsOf characterId), db)

def createExecutor : Pool.Executor creating where
  exec := CharacterStore.exec
  opened db _ _ := some db
  does_exec db op := by
    cases op with
    | maxCharacterCount | characterCount _ | fashions _ | equipments _ => exact ⟨rfl, Or.inl rfl⟩
    | insertEquipment _ => exact Or.inr rfl
    | insertCharacter playerId row =>
        show db.Does (.insertCharacter playerId row) (if _ then _ else _ : _ × _).1 (if _ then _ else _ : _ × _).2
        split_ifs with hname
        · exact ⟨hname, rfl⟩
        · exact ⟨Bool.eq_false_of_not_eq_true hname, rfl, rfl, rfl⟩
  opens_opened _ _ _ _ h := (Option.some.inj h).symm

theorem AllReliable.nil : AllReliable [] := fun l _ _ h => by simp at h

theorem AllReliable.snoc {trace : CreateTrace} {x : Pool createOps CharacterStore Creator × CreateEvent}
    (h : AllReliable trace) (hx : Reliable trace x) : AllReliable (trace ++ [x]) := by
  intro l y l' heq
  rcases List.eq_nil_or_concat l' with rfl | ⟨l', last, rfl⟩
  · obtain ⟨rfl, hlast⟩ := List.append_inj' heq rfl
    rwa [← (List.cons.inj hlast).1]
  · rw [List.concat_eq_append, ← List.cons_append, ← List.append_assoc] at heq
    exact h l y l' (List.append_inj' heq rfl).1

def swordsman (name : String) : CreateCharacterReq where
  name
  classId := 1
  gender := 0
  hairId := 101004
  clothesId := 101002

/-- A database that allows one character. -/
def oneAllowed : CharacterStore where
  maxCharacterCount := some 1

/-- A session creates the one character that its account may have. -/
theorem limit_of_run_one : ∃ trace pool₁, Run (Pool.Step creating) ⟨oneAllowed, []⟩ trace pool₁ ∧
    pool₁.shared.characterCount 7 = 1 ∧ pool₁.shared.Allows (pool₁.shared.characterCount 7) := by
  obtain ⟨⟨trace, pool⟩, hrecord⟩ := Option.isSome_iff_exists.1 (show
    (createExecutor.record ⟨oneAllowed, []⟩ ([.opens { accountId := some 7 }, .input 0 (swordsman "a")] ++
      [0, 0, 0].map .call)).isSome = true from rfl)
  have hrun := Pool.Executor.record_sound _ hrecord
  cases hrecord
  refine ⟨_, _, hrun, rfl, ?_⟩
  have hone : (-2 ^ 31 : Int) ≤ (1 : Int64).toInt := by decide
  refine (limit_of_run oneAllowed _ _ hrun ?_ [_, _, _, _] [] 0 7 _ _ _ _ rfl
    (.call rfl (createExecutor.does_exec _ _))).resolve_left ?_
  · change AllReliable ([] ++ [_] ++ [_] ++ [_] ++ [_] ++ [_])
    exact .snoc (.snoc (.snoc (.snoc (.snoc .nil trivial) trivial) hone) trivial) rfl
  · exact Nat.not_succ_le_zero 0

/-- Two sessions of an account count its characters before either inserts one. -/
theorem limit_exceeded : ∃ trace pool₀ row answer pool₁, Run (Pool.Step creating) ⟨oneAllowed, []⟩ trace pool₀ ∧
    Pool.Step creating pool₀ (.call 1 ⟨.insertCharacter 7 row, answer⟩) pool₁ ∧
      pool₀.shared.characterCount 7 = 1 ∧ pool₁.shared.characterCount 7 = 2 ∧
        pool₁.shared.maxCharacterCount = some 1 := by
  obtain ⟨⟨trace, pool⟩, hrecord⟩ := Option.isSome_iff_exists.1 (show
    (createExecutor.record ⟨oneAllowed, []⟩ ([.opens { accountId := some 7 }, .opens { accountId := some 7 },
      .input 0 (swordsman "a"), .input 1 (swordsman "b")] ++ [0, 1, 0, 1, 0].map .call)).isSome = true from rfl)
  have hrun := Pool.Executor.record_sound _ hrecord
  cases hrecord
  exact ⟨_, _, _, _, _, hrun, .call rfl (createExecutor.does_exec _ _), rfl, rfl, rfl⟩

end AxmolFighter.Game
