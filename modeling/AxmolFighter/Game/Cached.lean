import AxmolFighter.Game.Progress

/-!
# The copy of a character and its rows

A handler of `player/progress.rs` that has saved a request copies the request to the selected character.
What is read back is what was written: items without an id are left out, values are bounded, and the rows
come in the order of their key. The two are the same for requests that are already of this form.
-/

namespace AxmolFighter.Game

/-- What the request covers is the same in both. -/
def ProgressReq.Agrees (c c' : CharacterInfo) : ProgressReq → Prop
  | .fashionWear _ => c.fashions = c'.fashions
  | .armamentSync .. => c.armaments = c'.armaments ∧ c.armamentAppearanceId = c'.armamentAppearanceId
  | .skillSlotsSync _ => c.skillSlots = c'.skillSlots
  | .petSync .. => c.pets = c'.pets ∧ c.activePetId = c'.activePetId
  | .partnerSync .. => c.partners = c'.partners ∧ c.activePartnerId = c'.activePartnerId

/-- The item is written as it is. -/
def FeatureTable.InBounds : (t : FeatureTable) → t.Row → Prop
  | .characterArmaments, a =>
      0 < a.configId ∧ 1 ≤ a.level ∧ 0 ≤ a.star ∧ 0 ≤ a.grade ∧ 0 ≤ a.skinId ∧ 0 ≤ a.skillId
  | .characterSkillSlots, s => 0 ≤ s.leafId
  | .characterPets, p | .characterPartners, p => 0 < p.configId ∧ 1 ≤ p.level ∧ 0 ≤ p.star

/-- The items are what is read back after they are written. -/
def FeatureTable.Settled (t : FeatureTable) (items : List t.Row) : Prop :=
  (∀ r ∈ items, t.InBounds r) ∧ items.Pairwise fun r r' => t.key r < t.key r'

/-- The request is what is read back; fashions have the ids that the database gives them. -/
def ProgressReq.Settled (nextId : Nat) : ProgressReq → Prop
  | .fashionWear fashions => ∀ (i : Nat) (f : FashionInfo), fashions[i]? = some f → 0 < f.configId ∧ f.id = .ofNat (nextId + i)
  | .armamentSync armaments _ => FeatureTable.characterArmaments.Settled armaments
  | .skillSlotsSync slots => FeatureTable.characterSkillSlots.Settled slots
  | .petSync pets _ => FeatureTable.characterPets.Settled pets
  | .partnerSync partners _ => FeatureTable.characterPartners.Settled partners

/-! ### Bounds -/

theorem max_eq_self_iff {a b : Int32} : max a b = a ↔ b ≤ a := by
  show (if a ≤ b then b else a) = a ↔ _
  split_ifs with h
  · constructor
    · rintro rfl
      exact h
    · intro h'
      apply Int32.toInt_inj.1
      rw [Int32.le_iff_toInt_le] at h h'
      omega
  · refine iff_of_true rfl ?_
    rw [Int32.le_iff_toInt_le] at h ⊢
    omega

theorem le_max (a b : Int32) : b ≤ max a b := by
  show b ≤ if a ≤ b then b else a
  split_ifs with h <;> rw [Int32.le_iff_toInt_le] at *
  omega

namespace FeatureTable

variable (t : FeatureTable)

theorem inBounds_iff {t : FeatureTable} {r : t.Row} : t.InBounds r ↔ t.keeps r = true ∧ t.bound r = r := by
  cases t with
  | characterArmaments =>
      obtain ⟨configId, level, star, grade, skinId, skillId⟩ := r
      simp [InBounds, keeps, bound, max_eq_self_iff]
  | characterSkillSlots =>
      obtain ⟨slot, leafId⟩ := r
      simp [InBounds, keeps, bound, max_eq_self_iff]
  | characterPets | characterPartners =>
      obtain ⟨configId, level, star⟩ := r
      simp [InBounds, keeps, bound, max_eq_self_iff]

theorem inBounds_bound {t : FeatureTable} {r : t.Row} (h : t.keeps r = true) : t.InBounds (t.bound r) := by
  cases t with
  | characterArmaments =>
      exact ⟨of_decide_eq_true h, le_max _ _, le_max _ _, le_max _ _, le_max _ _, le_max _ _⟩
  | characterSkillSlots => exact le_max _ _
  | characterPets | characterPartners => exact ⟨of_decide_eq_true h, le_max _ _, le_max _ _⟩

theorem inBounds_of_written {t : FeatureTable} {items : List t.Row} {r : t.Row} (h : r ∈ t.written items) :
    t.InBounds r := by
  obtain ⟨r₀, hr₀, rfl⟩ := List.mem_map.1 h
  exact inBounds_bound (List.mem_filter.1 hr₀).2

theorem written_eq_self {t : FeatureTable} {items : List t.Row} (h : ∀ r ∈ items, t.InBounds r) :
    t.written items = items := by
  rw [written, List.filter_eq_self.2 fun r hr => (inBounds_iff.1 (h r hr)).1]
  exact (List.map_congr_left fun r hr => (inBounds_iff.1 (h r hr)).2).trans (List.map_id _)

end FeatureTable

/-! ### What is in the database -/

namespace CharacterTables

variable {db db' : CharacterTables} {t : FeatureTable} {characterId : Int64}

theorem executeAll_append (ss ss' : List Statement) (db : CharacterTables) :
    executeAll (ss ++ ss') db = (executeAll ss db).bind (executeAll ss') := by
  induction ss generalizing db with
  | nil => rfl
  | cons s rest ih =>
      rw [List.cons_append, executeAll, executeAll]
      rcases db.execute s with _ | db₁
      · rfl
      · exact ih db₁

theorem executeAll_insertRows (rows : List t.Row)
    (h : executeAll (rows.map (.insertRow t characterId)) db = some db') :
    db'.characters = db.characters ∧ ∀ k r, (db'.features t).get (characterId, k) = some r ↔
      (db.features t).get (characterId, k) = some r ∨ (r ∈ rows ∧ t.key r = k) := by
  induction rows generalizing db with
  | nil =>
      cases h
      exact ⟨rfl, fun k r => by simp⟩
  | cons row rest ih =>
      rw [List.map_cons, executeAll, execute] at h
      split_ifs at h with hok
      · obtain ⟨hcharacters, hget⟩ := ih h
        refine ⟨hcharacters, fun k r => ?_⟩
        have hnew : (db.features t).get (characterId, t.key row) = none := by
          simpa [Table.contains] using (Bool.and_eq_true_iff.1 hok).2
        rw [hget, features_setFeature, Table.get_insert]
        by_cases hk : k = t.key row
        · subst hk
          rw [if_pos rfl, hnew]
          constructor
          · rintro (heq | ⟨hr, hkey⟩)
            · cases heq
              exact Or.inr ⟨List.mem_cons_self, rfl⟩
            · exact Or.inr ⟨List.mem_cons_of_mem _ hr, hkey⟩
          · rintro (heq | ⟨hr, hkey⟩)
            · cases heq
            · rcases List.mem_cons.1 hr with rfl | hr
              · exact Or.inl rfl
              · exact Or.inr ⟨hr, hkey⟩
        · have hne : (characterId, k) ≠ (characterId, t.key row) := fun heq => hk (Prod.mk.inj heq).2
          rw [if_neg hne, List.mem_cons]
          refine or_congr Iff.rfl (and_congr_left fun hkey => ⟨Or.inr, ?_⟩)
          rintro (rfl | hr)
          · exact absurd hkey.symm hk
          · exact hr
      · cases h

theorem executeAll_rewrite {items : List t.Row} (h : executeAll (t.rewrite characterId items) db = some db') :
    db'.characters = db.characters ∧ ∀ k r, (db'.features t).get (characterId, k) = some r ↔
      r ∈ t.written items ∧ t.key r = k := by
  rw [FeatureTable.rewrite, executeAll, execute, Option.bind_some] at h
  obtain ⟨hcharacters, hget⟩ := executeAll_insertRows _ h
  refine ⟨hcharacters, fun k r => ?_⟩
  have hgone : ((db.features t).retain fun k _ => k.1 ≠ characterId).get (characterId, k) = none := by
    rw [Table.get_retain]
    simp
  rw [hget, features_setFeature, hgone]
  simp

theorem rowsOf_eq_iff {items : List t.Row} (hget : ∀ k r, (db.features t).get (characterId, k) = some r ↔
      r ∈ t.written items ∧ t.key r = k) :
    (db.rowsOf t characterId).map Prod.snd = items ↔ t.Settled items := by
  have hmem : ∀ k r, (k, r) ∈ db.rowsOf t characterId ↔ k = (characterId, t.key r) ∧ r ∈ t.written items := by
    rintro ⟨owner, k⟩ r
    rw [rowsOf, Table.mem_select, decide_eq_true_eq, Prod.mk.injEq]
    constructor
    · rintro ⟨h, rfl⟩
      obtain ⟨hr, hk⟩ := (hget k r).1 h
      exact ⟨⟨rfl, hk.symm⟩, hr⟩
    · rintro ⟨⟨rfl, rfl⟩, hr⟩
      exact ⟨(hget _ r).2 ⟨hr, rfl⟩, rfl⟩
  constructor
  · intro h
    have hranked : (db.features t).Ranked (fun k _ => k.1 = characterId) Prod.snd := by
      intro k _ k' _ _ _ hp hp' heq
      exact Prod.ext ((of_decide_eq_true hp).trans (of_decide_eq_true hp').symm) heq
    refine ⟨fun r hr => ?_, ?_⟩
    · rw [← h] at hr
      obtain ⟨⟨k, r⟩, he, rfl⟩ := List.mem_map.1 hr
      exact FeatureTable.inBounds_of_written ((hmem k r).1 he).2
    · rw [← h, List.pairwise_map]
      refine (Table.select_sorted hranked).imp_of_mem fun {a b} ha hb hlt => ?_
      have hkey := ((hmem a.1 a.2).1 ha).1
      have hkey' := ((hmem b.1 b.2).1 hb).1
      rw [hkey, hkey'] at hlt
      exact hlt
  · rintro ⟨hbounds, hsorted⟩
    have hlist : db.rowsOf t characterId = items.map fun r => ((characterId, t.key r), r) := by
      refine Table.select_unique (List.pairwise_map.2 hsorted) fun k r => ?_
      refine Iff.trans ?_ ((hmem k r).symm.trans (Table.mem_select ..))
      rw [FeatureTable.written_eq_self hbounds, List.mem_map]
      constructor
      · rintro ⟨r', hr', heq⟩
        cases heq
        exact ⟨rfl, hr'⟩
      · rintro ⟨rfl, hr⟩
        exact ⟨r, hr, rfl⟩
    rw [hlist, List.map_map]
    exact List.map_id _

theorem executeAll_insertFashions (rows : List FashionRow) (howner : ∀ row ∈ rows, row.characterId = characterId)
    (h : executeAll (rows.map .insertFashion) db = some db') :
    db'.characters = db.characters ∧ db'.fashionsOf characterId = db.fashionsOf characterId ++
      (rows.zipIdx db.fashions.nextId).map fun e => (e.2, e.1) := by
  induction rows generalizing db with
  | nil =>
      cases h
      exact ⟨rfl, (List.append_nil _).symm⟩
  | cons row rest ih =>
      rw [List.map_cons, executeAll, execute] at h
      split_ifs at h
      · obtain ⟨hcharacters, hselect⟩ := ih (fun row hrow => howner row (List.mem_cons_of_mem _ hrow)) h
        have hlast := db.fashions.select_insert (fun row => row.characterId = characterId) (v := row)
          (decide_eq_true (howner row List.mem_cons_self))
        refine ⟨hcharacters, ?_⟩
        rw [hselect]
        show (db.fashions.insert row).select _ ++ _ = _
        rw [hlast, List.append_assoc]
        rfl
      · cases h

theorem executeAll_fashions {fashions : List FashionInfo}
    (h : executeAll (ProgressReq.statements characterId (.fashionWear fashions)) db = some db') :
    db'.characters = db.characters ∧ db'.fashionsOf characterId =
      ((FashionRow.written characterId fashions).zipIdx db.fashions.nextId).map fun e => (e.2, e.1) := by
  have howner : ∀ row ∈ FashionRow.written characterId fashions, row.characterId = characterId := by
    intro row hrow
    obtain ⟨f, -, rfl⟩ := List.mem_map.1 hrow
    rfl
  obtain ⟨hcharacters, hselect⟩ := executeAll_insertFashions _ howner h
  refine ⟨hcharacters, hselect.trans ?_⟩
  exact congrArg (fun l => l ++ _) (db.fashionsOf_delete characterId)

/-- Fashions are read back as the list itself exactly if it has their ids, and none without a configuration. -/
theorem fashionsOf_eq_iff {fashions : List FashionInfo}
    (h : executeAll (ProgressReq.statements characterId (.fashionWear fashions)) db = some db') :
    ((db'.fashionsOf characterId).map fun e => e.2.toInfo e.1) = fashions ↔
      ProgressReq.Settled db.fashions.nextId (.fashionWear fashions) := by
  rw [(executeAll_fashions h).2, List.map_map]
  have hget : ∀ i, (((FashionRow.written characterId fashions).zipIdx db.fashions.nextId).map
      ((fun e : Nat × FashionRow => e.2.toInfo e.1) ∘ fun e => (e.2, e.1)))[i]? =
      ((fashions.filter fun f => 0 < f.configId)[i]?).map fun f : FashionInfo =>
        { f with id := .ofNat (db.fashions.nextId + i) } := by
    intro i
    rw [List.getElem?_map, List.getElem?_zipIdx, FashionRow.written, List.getElem?_map, Option.map_map, Option.map_map]
    rfl
  constructor
  · intro heq
    -- none is left out, as the lengths are the same
    have hfilter : fashions.filter (fun f => 0 < f.configId) = fashions := by
      refine List.filter_sublist.eq_of_length ?_
      have hlength := congrArg List.length heq
      rwa [List.length_map, List.length_zipIdx, FashionRow.written, List.length_map] at hlength
    intro i f hf
    have hkept := List.filter_eq_self.1 hfilter f (List.mem_of_getElem? hf)
    have hi := hget i
    rw [heq, hfilter, hf] at hi
    exact ⟨of_decide_eq_true hkept, congrArg FashionInfo.id (Option.some.inj hi)⟩
  · intro hsettled
    have hfilter : fashions.filter (fun f => 0 < f.configId) = fashions := by
      refine List.filter_eq_self.2 fun f hf => ?_
      obtain ⟨i, hi⟩ := List.getElem?_of_mem hf
      exact decide_eq_true (hsettled i f hi).1
    apply List.ext_getElem?
    intro i
    rw [hget, hfilter]
    rcases hi : fashions[i]? with _ | f
    · rfl
    · obtain ⟨id, configId, position, worn⟩ := f
      obtain rfl := (hsettled i _ hi).2
      rfl

end CharacterTables

/-! ### What is read back -/

theorem load_of_get {db : CharacterTables} {characterId : Int64} {row : CharacterRow}
    (h : db.characters.get characterId = some row) :
    ∃ stored, db.loadCharacterById characterId = some stored ∧
      stored.fashions = (db.fashionsOf characterId).map (fun e => e.2.toInfo e.1) ∧
      stored.armaments = (db.rowsOf .characterArmaments characterId).map Prod.snd ∧
      stored.armamentAppearanceId = row.armamentAppearanceId ∧
      stored.skillSlots = (db.rowsOf .characterSkillSlots characterId).map Prod.snd ∧
      stored.pets = (db.rowsOf .characterPets characterId).map Prod.snd ∧
      stored.activePetId = row.activePetId ∧
      stored.partners = (db.rowsOf .characterPartners characterId).map Prod.snd ∧
      stored.activePartnerId = row.activePartnerId := by
  have hcolumn : ∀ column : CharacterRow → Int32,
      (if ((db.characters.get characterId).map column).getD 0 = 0 then column row
        else ((db.characters.get characterId).map column).getD 0) = column row := by
    intro column
    rw [h]
    exact ite_eq_right_iff.2 fun _ => rfl
  refine ⟨_, by rw [CharacterTables.loadCharacterById, h]; rfl, rfl, rfl, ?_, rfl, rfl, ?_, rfl, ?_⟩
  · exact hcolumn fun row => row.armamentAppearanceId
  · exact hcolumn fun row => row.activePetId
  · exact hcolumn fun row => row.activePartnerId

/-- Rows that are rewritten and then a column: the list is read back as it is if it is settled, and the
column is the new one. -/
theorem rewritten {db db' : CharacterTables} {t : FeatureTable} {characterId : Int64} {items : List t.Row}
    {row : CharacterRow} {update : Statement} {column : CharacterRow → CharacterRow}
    (hrow : db.characters.get characterId = some row)
    (hupdate : ∀ db : CharacterTables,
      db.execute update = some { db with characters := db.characters.modify characterId column })
    (h : CharacterTables.executeAll (t.rewrite characterId items ++ [update]) db = some db') :
    db'.characters.get characterId = some (column row) ∧
      ((db'.rowsOf t characterId).map Prod.snd = items ↔ t.Settled items) := by
  rw [CharacterTables.executeAll_append, Option.bind_eq_some_iff] at h
  obtain ⟨db₁, hrewrite, hlast⟩ := h
  rw [CharacterTables.executeAll, hupdate] at hlast
  cases hlast
  obtain ⟨hcharacters, hget⟩ := CharacterTables.executeAll_rewrite hrewrite
  refine ⟨?_, CharacterTables.rowsOf_eq_iff hget⟩
  show (db₁.characters.modify characterId column).get characterId = _
  rw [Table.get_modify_self, hcharacters, hrow]
  rfl

theorem agrees_iff {db db' : CharacterTables} {c : CharacterInfo} {req : ProgressReq}
    (hrow : db.characters.contains c.characterId = true)
    (h : CharacterTables.executeAll (req.statements c.characterId) db = some db') :
    ∃ stored, db'.loadCharacterById c.characterId = some stored ∧
      (req.Agrees (req.refresh c.characterId c) stored ↔ req.Settled db.fashions.nextId) := by
  obtain ⟨row, hrow⟩ := (Table.contains_iff _ _).1 hrow
  cases req with
  | fashionWear fashions =>
      obtain ⟨hcharacters, -⟩ := CharacterTables.executeAll_fashions h
      rw [← hcharacters] at hrow
      obtain ⟨stored, hload, hfashions, -⟩ := load_of_get hrow
      refine ⟨stored, hload, ?_⟩
      rw [ProgressReq.Agrees, ProgressReq.refresh, if_pos rfl, hfashions]
      exact eq_comm.trans (CharacterTables.fashionsOf_eq_iff h)
  | skillSlotsSync slots =>
      obtain ⟨hcharacters, hget⟩ := CharacterTables.executeAll_rewrite (t := .characterSkillSlots) h
      rw [← hcharacters] at hrow
      obtain ⟨stored, hload, -, -, -, hslots, -⟩ := load_of_get hrow
      refine ⟨stored, hload, ?_⟩
      rw [ProgressReq.Agrees, hslots]
      exact eq_comm.trans (CharacterTables.rowsOf_eq_iff hget)
  | armamentSync armaments appearanceId =>
      obtain ⟨hnew, hlist⟩ := rewritten (t := .characterArmaments) hrow (fun _ => rfl) h
      obtain ⟨stored, hload, -, harmaments, happearance, -⟩ := load_of_get hnew
      refine ⟨stored, hload, ?_⟩
      rw [ProgressReq.Agrees, harmaments, happearance]
      exact (and_iff_left rfl).trans (eq_comm.trans hlist)
  | petSync pets activePetId =>
      obtain ⟨hnew, hlist⟩ := rewritten (t := .characterPets) hrow (fun _ => rfl) h
      obtain ⟨stored, hload, -, -, -, -, hpets, hactive, -⟩ := load_of_get hnew
      refine ⟨stored, hload, ?_⟩
      rw [ProgressReq.Agrees, hpets, hactive]
      exact (and_iff_left rfl).trans (eq_comm.trans hlist)
  | partnerSync partners activePartnerId =>
      obtain ⟨hnew, hlist⟩ := rewritten (t := .characterPartners) hrow (fun _ => rfl) h
      obtain ⟨stored, hload, -, -, -, -, -, -, hpartners, hactive⟩ := load_of_get hnew
      refine ⟨stored, hload, ?_⟩
      rw [ProgressReq.Agrees, hpartners, hactive]
      exact (and_iff_left rfl).trans (eq_comm.trans hlist)

/-- After a request that is answered with 0, the delegate's and the shared copy have what would be read back
exactly if the request is settled. -/
theorem cached_iff (fails : Nat → Bool) (st : Store) (d : Delegate) (req : ProgressReq) (c : CharacterInfo)
    (hselected : d.selectedCharacter = some c) (hrow : st.db.characters.contains c.characterId = true)
    (hcode : ((d.handleProgressReq req).eval (Store.exec fails) st).1.2.code = 0) :
    (∃ cached stored,
      ((d.handleProgressReq req).eval (Store.exec fails) st).1.1.selectedCharacter = some cached ∧
      ((d.handleProgressReq req).eval (Store.exec fails) st).2.selectedCharacters.get d.sessionId = some cached ∧
      ((d.handleProgressReq req).eval (Store.exec fails) st).2.db.loadCharacterById c.characterId = some stored ∧
      req.Agrees cached stored) ↔ req.Settled st.db.fashions.nextId := by
  rcases haccount : d.accountId with _ | accountId
  · have hrefused : d.requireSelectedCharacterId = .error { code := 401, message := "请先登录" } := by
      rw [Delegate.requireSelectedCharacterId, haccount]
    rw [Delegate.handleProgressReq_refused hrefused] at hcode
    exact absurd hcode (show (401 : Int32) ≠ 0 by decide)
  · rcases Delegate.handleProgressReq_outcome fails st haccount hselected req with h | h
    · obtain ⟨stored, hload, hiff⟩ := agrees_iff hrow h.executed
      rw [h.result, h.shared, Table.get_insert_self, hload, ← hiff]
      constructor
      · rintro ⟨_, _, ⟨⟩, -, ⟨⟩, hagrees⟩
        exact hagrees
      · exact fun hagrees => ⟨_, _, rfl, rfl, rfl, hagrees⟩
    · rw [h.result] at hcode
      exact absurd hcode (show (-1 : Int32) ≠ 0 by decide)

/-- Two skills in the order of their slots. -/
theorem cached_iff_settled : ∃ cached stored,
    ((Sample.player.handleProgressReq (.skillSlotsSync [⟨1, 5⟩, ⟨2, 6⟩])).eval
      (Store.exec fun _ => false) Sample.store).1.1.selectedCharacter = some cached ∧
    ((Sample.player.handleProgressReq (.skillSlotsSync [⟨1, 5⟩, ⟨2, 6⟩])).eval
      (Store.exec fun _ => false) Sample.store).2.selectedCharacters.get 1 = some cached ∧
    ((Sample.player.handleProgressReq (.skillSlotsSync [⟨1, 5⟩, ⟨2, 6⟩])).eval
      (Store.exec fun _ => false) Sample.store).2.db.loadCharacterById 1 = some stored ∧
    cached.skillSlots = stored.skillSlots :=
  (cached_iff (fun _ => false) Sample.store Sample.player (.skillSlotsSync [⟨1, 5⟩, ⟨2, 6⟩]) Sample.character rfl
    rfl (by decide +kernel)).2 ⟨by simp [FeatureTable.InBounds], by simp [FeatureTable.key]⟩

/-- In the other order, the copies keep the order of the request. -/
theorem cached_not_stored : ∃ (st : Store) (d : Delegate) (slots : List SkillSlotInfo) (cached stored : CharacterInfo),
    ((d.handleSkillSlotsSync slots).eval (Store.exec fun _ => false) st).1 =
      ({ d with selectedCharacter := some cached }, { code := 0, message := "" }) ∧
    ((d.handleSkillSlotsSync slots).eval (Store.exec fun _ => false) st).2.db.loadCharacterById cached.characterId =
      some stored ∧ cached.skillSlots ≠ stored.skillSlots := by
  refine ⟨Sample.store, Sample.player, [⟨2, 6⟩, ⟨1, 5⟩], { Sample.character with skillSlots := [⟨2, 6⟩, ⟨1, 5⟩] },
    { Sample.character with skillSlots := [⟨1, 5⟩, ⟨2, 6⟩], fashions := [⟨1, 3, 2, true⟩] }, rfl,
    rfl, ?_⟩
  decide

end AxmolFighter.Game
