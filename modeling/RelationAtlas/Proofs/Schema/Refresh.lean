import Mathlib.Data.List.Chain
import Mathlib.Data.List.Infix
import RelationAtlas.Proofs.Model.Relations
import RelationAtlas.Proofs.Outcome
import RelationAtlas.Schema.Current

/-! # Refreshing the current model

A source that remembers what it was asked shows which statements a reading asks, and when it
succeeds. From that follows what one refresh does, for any answers: it publishes a model that was
built from its own answers, or it leaves the current one. A history of refreshes and replacements
keeps this at every step, and settles as soon as the database reports the published fingerprint. -/

namespace RelationAtlas

/-- What a database answers to the last of the statements that it was asked. -/
abbrev Replies := List String → Except String String

def Replies.source (replies : Replies) : SchemaSource (StateM (List String)) := fun statement => do
  modify fun asked => asked ++ [statement]
  return replies (← get)

def fingerprintStatement : String := Query.render (Query.statementTokens [])

def Replies.Reports (replies : Replies) (fingerprint : Option String) : Prop :=
  ∃ text e, replies [fingerprintStatement] = .ok text ∧ Xml.parse? text = some e ∧
    e.attribute? Query.fingerprintAttribute = fingerprint

theorem Replies.Reports.unique {replies : Replies} {f g : Option String}
    (first : replies.Reports f) (second : replies.Reports g) : f = g := by
  obtain ⟨text, e, answer, document, rfl⟩ := first
  obtain ⟨text', e', answer', document', rfl⟩ := second
  cases answer.symm.trans answer'
  cases document.symm.trans document'
  rfl

namespace SchemaReader

def observe {α : Type} (x : ExceptT SchemaError (StateM (List String)) α) (asked : List String) :
    Except SchemaError α × List String :=
  x.run.run asked

section Observe

variable {α β : Type} {x : ExceptT SchemaError (StateM (List String)) α}
  {f : α → ExceptT SchemaError (StateM (List String)) β} {asked later all : List String}

@[simp] theorem observe_pure (a : α) : observe (pure a) asked = (.ok a, asked) := rfl

@[simp] theorem observe_lift (y : Except BrowseError α) :
    observe (SchemaError.lift y) asked = (y.mapError .browse, asked) := rfl

theorem observe_bind_of_ok {a : α} (h : observe x asked = (.ok a, later)) :
    observe (x >>= f) asked = observe (f a) later := by
  change (ExceptT.bindCont f (observe x asked).1).run (observe x asked).2 = _
  rw [h]
  rfl

theorem observe_bind_of_error {e : SchemaError} (h : observe x asked = (.error e, later)) :
    observe (x >>= f) asked = (.error e, later) := by
  change (ExceptT.bindCont f (observe x asked).1).run (observe x asked).2 = _
  rw [h]
  rfl

theorem observe_bind_eq_ok_iff {b : β} : observe (x >>= f) asked = (.ok b, all) ↔
    ∃ a later, observe x asked = (.ok a, later) ∧ observe (f a) later = (.ok b, all) := by
  obtain ⟨outcome, later, observed⟩ : ∃ outcome later, observe x asked = (outcome, later) :=
    ⟨_, _, rfl⟩
  cases outcome with
  | error e => simp [observe_bind_of_error observed, observed]
  | ok a => simp [observe_bind_of_ok observed, observed]

end Observe

def Asks (r : SchemaReader) {α : Type} (questions : List SchemaQuestion)
    (x : ExceptT SchemaError (StateM (List String)) α) : Prop :=
  ∀ asked, ∃ more, (observe x asked).2 = asked ++ more ∧
    more.map .ok <+: questions.map r.sql ∧
      ∀ a, (observe x asked).1 = .ok a → more.map .ok = questions.map r.sql

section Asks

variable {r : SchemaReader} {α β : Type} {x : ExceptT SchemaError (StateM (List String)) α}
  {f : α → ExceptT SchemaError (StateM (List String)) β}

theorem asks_lift (y : Except BrowseError α) : r.Asks [] (SchemaError.lift y) :=
  fun asked => ⟨[], by simp⟩

theorem Asks.bind {first rest : List SchemaQuestion} (hx : r.Asks first x)
    (hf : ∀ a, r.Asks rest (f a)) : r.Asks (first ++ rest) (x >>= f) := by
  intro asked
  obtain ⟨more, later, order, whole⟩ := hx asked
  obtain ⟨outcome, observed⟩ : ∃ outcome, observe x asked = (outcome, asked ++ more) :=
    ⟨_, Prod.ext rfl later⟩
  rw [List.map_append]
  cases outcome with
  | error e =>
    rw [observe_bind_of_error observed]
    exact ⟨more, rfl, order.trans (List.prefix_append _ _), nofun⟩
  | ok a =>
    rw [observe_bind_of_ok observed]
    obtain ⟨more', later', order', whole'⟩ := hf a (asked ++ more)
    have whole : more.map .ok = first.map r.sql := whole a (by rw [observed])
    refine ⟨more ++ more', by rw [later', List.append_assoc], ?_, fun b hb => ?_⟩
    · rw [List.map_append, whole]
      exact (List.prefix_append_right_inj _).2 order'
    · rw [List.map_append, whole, whole' b hb]

end Asks

section Readings

variable (r : SchemaReader) {replies : Replies} {asked all : List String}

@[simp] theorem observe_source (s : String) :
    observe (liftM (replies.source s)) asked = (.ok (replies (asked ++ [s])), asked ++ [s]) := rfl

theorem observe_ask_of_sql {question : SchemaQuestion} {s : String}
    (compiled : r.sql question = .ok s) : observe (r.ask replies.source question) asked =
      ((replies (asked ++ [s])).mapError (.unanswered question), asked ++ [s]) := by
  have statement : observe (SchemaError.lift (r.sql question)) asked = (.ok s, asked) := by
    rw [observe_lift, compiled]
    rfl
  rw [ask, observe_bind_of_ok statement, observe_bind_of_ok (observe_source s)]
  cases replies (asked ++ [s]) <;> rfl

theorem observe_ask_of_error {question : SchemaQuestion} {e : BrowseError}
    (compiled : r.sql question = .error e) :
    observe (r.ask replies.source question) asked = (.error (.browse e), asked) := by
  have statement : observe (SchemaError.lift (r.sql question)) asked = (.error (.browse e), asked) := by
    rw [observe_lift, compiled]
    rfl
  rw [ask, observe_bind_of_error statement]

theorem observe_ask_eq_ok_iff {question : SchemaQuestion} {text : String} :
    observe (r.ask replies.source question) asked = (.ok text, all) ↔
      ∃ s, r.sql question = .ok s ∧ all = asked ++ [s] ∧ replies all = .ok text := by
  cases compiled : r.sql question with
  | error e => simp [observe_ask_of_error r compiled]
  | ok s =>
    rw [observe_ask_of_sql r compiled]
    cases answer : replies (asked ++ [s]) <;> grind [Except.mapError]

theorem asks_ask (question : SchemaQuestion) :
    r.Asks [question] (r.ask replies.source question) := by
  intro asked
  cases compiled : r.sql question with
  | error e => exact ⟨[], by simp [observe_ask_of_error r compiled]⟩
  | ok s => exact ⟨[s], by simp [observe_ask_of_sql r compiled, compiled]⟩

theorem asks_result (question : SchemaQuestion) :
    r.Asks [question] (r.result replies.source question) :=
  (asks_ask r question).bind fun _ => asks_lift _

theorem asks_readCatalog (replies : Replies) :
    r.Asks [.tables, .foreignKeys] (r.readCatalog replies.source) :=
  (asks_result r .tables).bind fun _ => (asks_result r .foreignKeys).bind fun _ => asks_lift _

theorem asks_build (replies : Replies) :
    r.Asks [.tables, .foreignKeys] (r.build replies.source) :=
  (asks_readCatalog r replies).bind fun _ => asks_lift _

theorem observe_result_eq_ok_iff {question : SchemaQuestion} {result : QueryResult} :
    observe (r.result replies.source question) asked = (.ok result, all) ↔
      ∃ s text, r.sql question = .ok s ∧ all = asked ++ [s] ∧ replies all = .ok text ∧
        QueryResult.parse r.system (r.extent question) text = .ok result := by
  simp only [SchemaReader.result, observe_bind_eq_ok_iff, observe_ask_eq_ok_iff, observe_lift,
    Prod.mk.injEq, mapError_eq_ok_iff]
  constructor
  · rintro ⟨text, later, ⟨s, compiled, rfl, answer⟩, parsed, rfl⟩
    exact ⟨s, text, compiled, rfl, answer, parsed⟩
  · rintro ⟨s, text, compiled, rfl, answer, parsed⟩
    exact ⟨text, _, ⟨s, compiled, rfl, answer⟩, parsed, rfl⟩

inductive Rebuilds (replies : Replies) : Model → Prop
  | intro {tables foreignKeys tablesText foreignKeysText : String} {e : Xml.Element}
      {tablesResult foreignKeysResult : QueryResult} {catalog : Catalog} {m : Model}
      (tablesSql : r.sql .tables = .ok tables) (foreignKeysSql : r.sql .foreignKeys = .ok foreignKeys)
      (tablesReply : replies [fingerprintStatement, tables] = .ok tablesText)
      (foreignKeysReply :
        replies [fingerprintStatement, tables, foreignKeys] = .ok foreignKeysText)
      (tablesRead : QueryResult.parse r.system r.tables tablesText = .ok tablesResult)
      (foreignKeysRead : QueryResult.parse r.system r.foreignKeys foreignKeysText =
        .ok foreignKeysResult)
      (catalogRead : SystemViews.catalogOfResults tablesResult foreignKeysResult = .ok catalog)
      (built : Model.build r.options catalog = .ok m)
      (document : Xml.parse? tablesText = some e)
      (fingerprint : m.fingerprint = e.attribute? Query.fingerprintAttribute) : Rebuilds replies m

theorem fingerprint_of_parse {m : Model} {root : Extent} {text : String} {result : QueryResult}
    (h : QueryResult.parse m root text = .ok result) : ∃ e, Xml.parse? text = some e ∧
      result.fingerprint = e.attribute? Query.fingerprintAttribute := by
  rw [QueryResult.parse] at h
  cases document : Xml.parse? text with
  | none => simp [document] at h
  | some e =>
    simp only [document, QueryResult.ofElement] at h
    split at h
    · obtain ⟨entity, -, made⟩ := bind_eq_ok_iff.1 h
      cases made
      exact ⟨e, rfl, rfl⟩
    · cases h

theorem fingerprint_of_catalogOfResults {tables foreignKeys : QueryResult} {catalog : Catalog}
    (h : SystemViews.catalogOfResults tables foreignKeys = .ok catalog) :
    catalog.fingerprint = tables.fingerprint := by
  obtain ⟨records, -, rest⟩ := bind_eq_ok_iff.1 h
  obtain ⟨constraints, -, made⟩ := bind_eq_ok_iff.1 rest
  cases made
  rfl

theorem fingerprint_of_build {options : BrowseOptions} {catalog : Catalog} {m : Model}
    (h : Model.build options catalog = .ok m) : m.fingerprint = catalog.fingerprint := by
  obtain ⟨bare, resolved, -, -, rfl⟩ := Model.build_eq_ok h
  rfl

theorem exists_observe_build_iff {m : Model} :
    (∃ all, observe (r.build replies.source) [fingerprintStatement] = (.ok m, all)) ↔
      r.Rebuilds replies m := by
  simp only [SchemaReader.build, readCatalog, observe_bind_eq_ok_iff, observe_result_eq_ok_iff,
    observe_lift, Prod.mk.injEq, mapError_eq_ok_iff]
  constructor
  · rintro ⟨all, catalog, later, ⟨tables, _, ⟨t, tablesText, tablesSql, rfl, tablesReply, tablesRead⟩,
      foreignKeys, _, ⟨k, foreignKeysText, foreignKeysSql, rfl, foreignKeysReply, foreignKeysRead⟩,
      catalogRead, -⟩, built, -⟩
    obtain ⟨e, document, fingerprint⟩ := fingerprint_of_parse tablesRead
    refine .intro tablesSql foreignKeysSql tablesReply foreignKeysReply tablesRead foreignKeysRead
      catalogRead built document ?_
    rw [fingerprint_of_build built, fingerprint_of_catalogOfResults catalogRead, fingerprint]
  · rintro ⟨tablesSql, foreignKeysSql, tablesReply, foreignKeysReply, tablesRead, foreignKeysRead,
      catalogRead, built, -, -⟩
    exact ⟨_, _, _, ⟨_, _, ⟨_, _, tablesSql, rfl, tablesReply, tablesRead⟩, _, _,
      ⟨_, _, foreignKeysSql, rfl, foreignKeysReply, foreignKeysRead⟩, catalogRead, rfl⟩, built, rfl⟩

theorem sql_fingerprint : r.sql .fingerprint = .ok fingerprintStatement := rfl

theorem exists_observe_fingerprint (replies : Replies) : ∃ outcome,
    observe (r.fingerprint replies.source) [] = (outcome, [fingerprintStatement]) ∧
      ∀ fingerprint, outcome = .ok fingerprint ↔ replies.Reports fingerprint := by
  have asked : observe (r.ask replies.source .fingerprint) [] = _ :=
    observe_ask_of_sql r (sql_fingerprint r)
  rw [List.nil_append] at asked
  rw [SchemaReader.fingerprint]
  cases answer : replies [fingerprintStatement] with
  | error reason =>
    rw [observe_bind_of_error (by rw [asked, answer]; rfl)]
    exact ⟨_, rfl, by simp [Replies.Reports, answer]⟩
  | ok text =>
    rw [observe_bind_of_ok (by rw [asked, answer]; rfl)]
    cases document : Xml.parse? text with
    | none => exact ⟨_, rfl, by simp [Replies.Reports, answer, document]⟩
    | some e => exact ⟨_, rfl, by simp [Replies.Reports, answer, document]⟩

end Readings

end SchemaReader

namespace CurrentModel

/-- What a refresh keeps, for any answers: the statements that it asks are the first ones of three,
it leaves the model unless it publishes one, and it publishes what its own answers give. -/
structure Refreshed (before : CurrentModel) (r : SchemaReader) (replies : Replies)
    (outcome : Except SchemaError Bool) (asked : List String) (after : CurrentModel) : Prop where
  ordered : asked.map .ok <+: [r.sql .fingerprint, r.sql .tables, r.sql .foreignKeys]
  kept : outcome ≠ .ok true → after = before
  unchanged : outcome = .ok false ↔ replies.Reports before.model.fingerprint
  once : outcome = .ok false → asked = [fingerprintStatement]
  renewed : outcome = .ok true ↔ (∃ f, replies.Reports f ∧ f ≠ before.model.fingerprint) ∧
    ∃ m, r.Rebuilds replies m
  published : outcome = .ok true → r.Rebuilds replies after.model

section Refresh

variable {c : CurrentModel} {r : SchemaReader} {replies : Replies} {asked : List String}

theorem refresh_of_error {e : SchemaError}
    (h : SchemaReader.observe (r.renew replies.source c.model) [] = (.error e, asked)) :
    (c.refresh r replies.source).run [] = ((.error e, c), asked) := by
  change StateT.run _ [] = _ at h
  simp only [refresh, StateT.run_bind, h]
  rfl

theorem refresh_of_none
    (h : SchemaReader.observe (r.renew replies.source c.model) [] = (.ok none, asked)) :
    (c.refresh r replies.source).run [] = ((.ok false, c), asked) := by
  change StateT.run _ [] = _ at h
  simp only [refresh, StateT.run_bind, h]
  rfl

theorem refresh_of_some {m : Model}
    (h : SchemaReader.observe (r.renew replies.source c.model) [] = (.ok (some m), asked)) :
    (c.refresh r replies.source).run [] = ((.ok true, ⟨m⟩), asked) := by
  change StateT.run _ [] = _ at h
  simp only [refresh, StateT.run_bind, h]
  rfl

theorem refreshed_of_unread {e : SchemaError} (unread : ∀ f, ¬replies.Reports f) :
    Refreshed c r replies (.error e) [fingerprintStatement] c where
  ordered := ⟨_, rfl⟩
  kept _ := rfl
  unchanged := ⟨nofun, fun reports => (unread _ reports).elim⟩
  once := nofun
  renewed := ⟨nofun, fun ⟨⟨f, reports, _⟩, _⟩ => (unread f reports).elim⟩
  published := nofun

theorem refreshed_of_same (same : replies.Reports c.model.fingerprint) :
    Refreshed c r replies (.ok false) [fingerprintStatement] c where
  ordered := ⟨_, rfl⟩
  kept _ := rfl
  unchanged := ⟨fun _ => same, fun _ => rfl⟩
  once _ := rfl
  renewed := ⟨nofun, fun ⟨⟨_, reports, moved⟩, _⟩ => (moved (reports.unique same)).elim⟩
  published := nofun

theorem renew_of_reports {f : Option String} (reports : replies.Reports f) :
    SchemaReader.observe (r.renew replies.source c.model) [] = SchemaReader.observe
      (if c.model.isStale f then (do return some (← r.build replies.source)) else return none)
      [fingerprintStatement] := by
  obtain ⟨outcome, observed, read⟩ := r.exists_observe_fingerprint replies
  rw [(read f).2 reports] at observed
  rw [SchemaReader.renew, SchemaReader.observe_bind_of_ok observed]

theorem exists_refreshed_of_moved {f : Option String} (reports : replies.Reports f)
    (moved : f ≠ c.model.fingerprint) : ∃ outcome asked after,
      (c.refresh r replies.source).run [] = ((outcome, after), asked) ∧
        Refreshed c r replies outcome asked after := by
  have stale : c.model.isStale f = true := bne_iff_ne.2 (Ne.symm moved)
  have renewed := renew_of_reports (c := c) (r := r) reports
  rw [if_pos stale] at renewed
  have other : ¬replies.Reports c.model.fingerprint := fun same => moved (reports.unique same)
  obtain ⟨more, later, order, -⟩ := r.asks_build replies [fingerprintStatement]
  obtain ⟨outcome, observed⟩ : ∃ outcome, SchemaReader.observe (r.build replies.source)
      [fingerprintStatement] = (outcome, fingerprintStatement :: more) := ⟨_, Prod.ext rfl later⟩
  have ordered : (fingerprintStatement :: more).map .ok <+:
      [r.sql .fingerprint, r.sql .tables, r.sql .foreignKeys] :=
    (List.prefix_cons_inj _).2 order
  cases outcome with
  | error e =>
    rw [SchemaReader.observe_bind_of_error observed] at renewed
    refine ⟨_, _, _, refresh_of_error renewed, ordered, fun _ => rfl,
      ⟨nofun, fun same => (other same).elim⟩, nofun, ⟨nofun, ?_⟩, nofun⟩
    rintro ⟨-, m, rebuilt⟩
    obtain ⟨all, built⟩ := r.exists_observe_build_iff.2 rebuilt
    cases observed.symm.trans built
  | ok m =>
    rw [SchemaReader.observe_bind_of_ok observed, SchemaReader.observe_pure] at renewed
    have rebuilt : r.Rebuilds replies m := r.exists_observe_build_iff.1 ⟨_, observed⟩
    exact ⟨_, _, _, refresh_of_some renewed, ordered, fun other => (other rfl).elim,
      ⟨nofun, fun same => (other same).elim⟩, nofun,
      ⟨fun _ => ⟨⟨f, reports, moved⟩, m, rebuilt⟩, fun _ => rfl⟩, fun _ => rebuilt⟩

theorem exists_refreshed (c : CurrentModel) (r : SchemaReader) (replies : Replies) :
    ∃ outcome asked after, (c.refresh r replies.source).run [] = ((outcome, after), asked) ∧
      Refreshed c r replies outcome asked after := by
  obtain ⟨outcome, observed, read⟩ := r.exists_observe_fingerprint replies
  cases outcome with
  | error e =>
    refine ⟨_, _, _, refresh_of_error (SchemaReader.observe_bind_of_error observed),
      refreshed_of_unread fun f reports => ?_⟩
    cases (read f).2 reports
  | ok f =>
    have reports : replies.Reports f := (read f).1 rfl
    by_cases same : f = c.model.fingerprint
    · refine ⟨_, _, _, refresh_of_none ?_, refreshed_of_same (same ▸ reports)⟩
      rw [renew_of_reports reports, if_neg (by simp [Model.isStale, same])]
      rfl
    · exact exists_refreshed_of_moved reports same

end Refresh

inductive Step
  | replace (model : Model)
  | refresh (reader : SchemaReader) (replies : Replies)

structure Taken where
  step : Step
  before : CurrentModel
  outcome : Option (Except SchemaError Bool)
  asked : List String
  after : CurrentModel

def take (c : CurrentModel) : Step → Taken
  | .replace model => ⟨.replace model, c, none, [], c.replace model⟩
  | .refresh reader replies =>
    let result := (c.refresh reader replies.source).run []
    ⟨.refresh reader replies, c, some result.1.1, result.2, result.1.2⟩

def history (c : CurrentModel) : List Step → List Taken
  | [] => []
  | step :: steps => c.take step :: (c.take step).after.history steps

inductive Taken.Lawful : Taken → Prop
  | replace (before : CurrentModel) (model : Model) :
      Lawful ⟨.replace model, before, none, [], ⟨model⟩⟩
  | refresh {before after : CurrentModel} {reader : SchemaReader} {replies : Replies}
      {outcome : Except SchemaError Bool} {asked : List String}
      (refreshed : Refreshed before reader replies outcome asked after) :
      Lawful ⟨.refresh reader replies, before, some outcome, asked, after⟩

/-- A step goes on from the model that the one before it left, and a refresh does nothing if the
database reports the fingerprint of that model, just published or not. -/
structure Taken.Settles (first next : Taken) : Prop where
  current : next.before = first.after
  settled : ∀ reader replies, next.step = .refresh reader replies →
    replies.Reports first.after.model.fingerprint → next.outcome = some (.ok false) ∧
      next.asked = [fingerprintStatement] ∧ next.after = first.after

theorem lawful_take (c : CurrentModel) (step : Step) : (c.take step).Lawful := by
  cases step with
  | replace model => exact .replace c model
  | refresh reader replies =>
    obtain ⟨outcome, asked, after, taken, refreshed⟩ := exists_refreshed c reader replies
    simp only [take, taken]
    exact .refresh refreshed

theorem settles_take (first : Taken) (step : Step) : first.Settles (first.after.take step) where
  current := by cases step <;> rfl
  settled reader replies refresh reports := by
    cases step with
    | replace model => cases refresh
    | refresh =>
      cases refresh
      obtain ⟨outcome, asked, after, taken, refreshed⟩ :=
        exists_refreshed first.after reader replies
      obtain rfl := refreshed.unchanged.2 reports
      simp only [take, taken]
      exact ⟨trivial, refreshed.once rfl, refreshed.kept nofun⟩

/-- Whatever a database answers, every step of a history is lawful and goes on from the one before
it, and a refresh that meets the fingerprint of the current model settles. -/
theorem history_lawful (c : CurrentModel) (steps : List Step) :
    (c.history steps).map Taken.step = steps ∧
      (∀ taken ∈ c.history steps, taken.Lawful) ∧
        (c.history steps).IsChain Taken.Settles ∧
          ∀ first ∈ (c.history steps).head?, first.before = c := by
  induction steps generalizing c with
  | nil => simp [history]
  | cons step steps ih =>
    obtain ⟨listed, lawful, chained, -⟩ := ih (c.take step).after
    refine ⟨?_, List.forall_mem_cons.2 ⟨lawful_take c step, lawful⟩, ?_, ?_⟩
    · rw [history, List.map_cons, listed]
      cases step <;> rfl
    · refine chained.cons fun next head => ?_
      cases steps with
      | nil => simp [history] at head
      | cons later steps =>
        obtain rfl := Option.some.inj head
        exact settles_take _ later
    · rintro _ ⟨⟩
      cases step <;> rfl

end CurrentModel

end RelationAtlas
