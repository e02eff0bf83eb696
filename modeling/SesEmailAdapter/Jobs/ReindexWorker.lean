import SesEmailAdapter.Embedding.EmbedText

/-! # ReindexWorker

Copies the embeddings of the signals table to a cluster. A job scans the table in segments, page
by page, with a filter on the key alone, and reads every row it gets as an email signal. A row
whose embedding can be neither copied nor regenerated fails the segment it is in. -/

namespace SesEmailAdapter.Jobs.ReindexWorker
open Lib
open Database.Shared
open Processor.IngestService (ParsedMime)

/-! ## The rows of the signals table -/

abbrev Embeddings := List (String × List Int)

/-- The payloads of signals, with what the worker reads of them. `embeddings` is absent on
quarantined and blocked mail. -/
inductive SignalData
  | inboundEmail (recipientAddress : String) (embeddings : Option Embeddings) (s3Key : String)
  | outboundEmail (recipientAddress : String)
  | calendarEvent | calendarInviteInvalid | domainMisconfiguration
  | deliverability | invalidRuleFunction | invalidTemplateFunction
  | autoSendBlocked (recipientAddress : String)
deriving DecidableEq, Repr

structure SignalRow where
  id : String
  signalLookupId : String
  accountId : String
  threadId : Option String
  createdAt : String
  retentionDuration : Option String
  data : SignalData
deriving DecidableEq, Repr

/-- A row. An update of a signal that is gone leaves a bare one. -/
inductive Row
  | signal (signal : SignalRow)
  | bare (accountId signalLookupId : String)
  | thread (accountId id : String)
deriving DecidableEq, Repr

def sigPk (accountId signalLookupId : String) : String :=
  "ACCT#" ++ accountId ++ "#SIG#" ++ signalLookupId

def threadPk (accountId id : String) : String := "ACCT#" ++ accountId ++ "#ARC#" ++ id

def Row.pk : Row → String
  | .signal s => sigPk s.accountId s.signalLookupId
  | .bare accountId signalLookupId => sigPk accountId signalLookupId
  | .thread accountId id => threadPk accountId id

/-- `contains(pk, "#SIG#")` -/
def Marked (pk : String) : Prop := "#SIG#".toList <:+: pk.toList

instance (pk : String) : Decidable (Marked pk) := inferInstanceAs (Decidable (_ <:+: _))

/-- The attributes of an email that the worker casts a payload to. -/
structure EmailAttributes where
  recipientAddress : Option String
  embeddings : Option Embeddings
  s3Key : Option String
deriving DecidableEq, Repr

def SignalData.attributes : SignalData → EmailAttributes
  | .inboundEmail recipientAddress embeddings s3Key =>
    ⟨some recipientAddress, embeddings, some s3Key⟩
  | .outboundEmail recipientAddress => ⟨some recipientAddress, none, some ""⟩
  | .autoSendBlocked recipientAddress => ⟨some recipientAddress, none, none⟩
  | _ => ⟨none, none, none⟩

/-! ## Clusters -/

structure ClusterRegistryEntry where
  registryId : String
  modelId : String
deriving DecidableEq, Repr

def CLUSTER_REGISTRY : List ClusterRegistryEntry :=
  [⟨"aurora-prod-titan-v2", "amazon.titan-embed-text-v2:0"⟩]

def getRegistryById (registryId : String) : Option ClusterRegistryEntry :=
  CLUSTER_REGISTRY.find? fun cluster => cluster.registryId = registryId

/-- A row of `thread_embeddings`. Without `expiresAt` it expires two years from its write. -/
structure EmbeddingRow where
  signalId : String
  threadId : String
  accountId : String
  recipientAddress : String
  embedding : List Int
  expiresAt : Option Int
deriving DecidableEq, Repr

/-- The primary key. -/
structure EmbeddingKey where
  signalId : String
  threadId : String
  accountId : String
  recipientAddress : String
deriving DecidableEq, Repr

def EmbeddingRow.key (row : EmbeddingRow) : EmbeddingKey :=
  ⟨row.signalId, row.threadId, row.accountId, row.recipientAddress⟩

/-- The values of an insert; the columns are declared `NOT NULL`. -/
structure InsertValues where
  signalId : String
  threadId : Option String
  accountId : String
  recipientAddress : Option String
  embedding : List Int
  expiresAt : Option Int
deriving DecidableEq, Repr

def InsertValues.row? (values : InsertValues) : Option EmbeddingRow := do
  let threadId ← values.threadId
  let recipientAddress ← values.recipientAddress
  return ⟨values.signalId, threadId, values.accountId, recipientAddress, values.embedding,
    values.expiresAt⟩

/-! ## Calls -/

structure ReindexSegmentMessage where
  jobId : String
  segment : Nat
  totalSegments : Nat
  targetRegistryId : String
  modelId : String
deriving DecidableEq, Repr

/-- A page of a scan. Its `LastEvaluatedKey` is the number of pages read. -/
structure ScanPage where
  items : List Row
  lastEvaluatedKey : Option Nat
deriving DecidableEq, Repr

inductive Cmd
  | scan (segment totalSegments : Nat) (exclusiveStartKey : Option Nat)
  | getObject (key : String)
  | parseBuffer (rawBytes : String)
  | generateForModel (text modelId : String)
  /-- `SET #data.embeddings.#mid = :v` on the row of a key. -/
  | updateEmbeddings (pk modelId : String) (vector : List Int)
  /-- `INSERT … ON CONFLICT DO UPDATE` in a cluster. -/
  | insertEmbedding (values : InsertValues)
deriving DecidableEq, Repr

@[reducible] def Cmd.Answer : Cmd → Type
  | .scan .. => Except DbError ScanPage
  | .getObject _ => Except DbError (Option String)
  | .parseBuffer _ => Except DbError ParsedMime
  | .generateForModel .. => Except DbError (List Int)
  | .updateEmbeddings .. => Except DbError Unit
  | .insertEmbedding _ => Except DbError Unit

abbrev ReindexProg (α : Type) := Prog Cmd Cmd.Answer α

structure Env where
  embedText : Embedding.EmbedText.Env
  /-- Created more than `LIFECYCLE_EXPIRY_DAYS` ago. -/
  pastLifecycle : String → Bool
  retentionTtl : String → String → Option Int

/-! ## One signal -/

inductive Cause
  | text (text : String)
  | call (error : DbError)
deriving DecidableEq, Repr

structure Failure where
  signalId : String
  cause : Cause
deriving DecidableEq, Repr

def toSavedKey (s3Key : String) : String :=
  "saved/" ++ if "emails/".toList <+: s3Key.toList then String.ofList (s3Key.toList.drop 7)
    else s3Key

def effectiveEmailKey (env : Env) (s3Key createdAt : String) : String :=
  if env.pastLifecycle createdAt then toSavedKey s3Key else s3Key

def generateEmbeddingFromS3 (env : Env) (s3Key accountId recipientAddress modelId : String) :
    ReindexProg (Except DbError (List Int)) := do
  let res : Except DbError (Option String) ← Prog.perform (Cmd.getObject s3Key)
  match res with
  | .error e => return .error e
  | .ok none => return .error ⟨"Empty S3 object: " ++ s3Key⟩
  | .ok (some rawBytes) => do
    let parseResult : Except DbError ParsedMime ← Prog.perform (Cmd.parseBuffer rawBytes)
    match parseResult with
    | .error error => return .error error
    | .ok parsed =>
      Prog.perform (Cmd.generateForModel
        (Embedding.EmbedText.textFromS3 env.embedText parsed accountId recipientAddress) modelId)

def addEmbeddingToCache (accountId signalLookupId modelId : String) (vector : List Int) :
    ReindexProg (Except DbError Unit) :=
  Prog.perform (Cmd.updateEmbeddings (sigPk accountId signalLookupId) modelId vector)

/-- Retention and creation time give the expiry. -/
def expiryOf (env : Env) (signal : SignalRow) : Option Int :=
  signal.retentionDuration.bind fun retentionDuration =>
    env.retentionTtl retentionDuration signal.createdAt

def upsertEmbedding (env : Env) (registryId : String) (signal : SignalRow) (embedding : List Int) :
    ReindexProg (Except DbError Unit) :=
  match getRegistryById registryId with
  | none => return .error ⟨"Cluster \"" ++ registryId ++ "\" not found in CLUSTER_REGISTRY"⟩
  | some _ =>
    Prog.perform (Cmd.insertEmbedding ⟨signal.id, signal.threadId, signal.accountId,
      signal.data.attributes.recipientAddress, embedding, expiryOf env signal⟩)

/-- The result of a call about a signal. -/
def failing {α : Type} (signal : SignalRow) (result : Except DbError α) : Except Failure α :=
  result.mapError fun error => ⟨signal.id, .call error⟩

def pureCopyToAurora (env : Env) (signal : SignalRow) (vector : List Int) (registryId : String) :
    ReindexProg (Except Failure Unit) :=
  failing signal <$> upsertEmbedding env registryId signal vector

def regenerateFromS3 (env : Env) (signal : SignalRow) (registryId modelId : String) :
    ReindexProg (Except Failure Unit) :=
  let data := signal.data.attributes
  match data.s3Key.filter (· ≠ "") with
  | none => return .error ⟨signal.id, .text "no s3Key on signal record"⟩
  | some s3Key => do
    let result ← generateEmbeddingFromS3 env (effectiveEmailKey env s3Key signal.createdAt)
      signal.accountId (data.recipientAddress.getD "undefined") modelId
    match failing signal result with
    | .error failure => return .error failure
    | .ok vector => do
      let cacheResult ← addEmbeddingToCache signal.accountId signal.signalLookupId modelId vector
      match failing signal cacheResult with
      | .error failure => return .error failure
      | .ok () => failing signal <$> upsertEmbedding env registryId signal vector

def cachedVector (modelId : String) (signal : SignalRow) : Option (List Int) :=
  signal.data.attributes.embeddings.bind fun embeddings => embeddings.lookup modelId

def processSignal (env : Env) (registryId modelId : String) :
    Row → ReindexProg (Except Failure Unit)
  | .bare .. => return .error ⟨"unknown", .text "no data property on item"⟩
  | .thread _ id => return .error ⟨id, .text "no data property on item"⟩
  | .signal signal =>
    match cachedVector modelId signal with
    | some vector => pureCopyToAurora env signal vector registryId
    | none => regenerateFromS3 env signal registryId modelId

/-! ## Segments -/

inductive SegmentError
  | db (error : DbError)
  | processing (segment : Nat) (failures : List Failure)
deriving DecidableEq, Repr

/-- The items of a page, one after the other, whatever becomes of each. -/
def processItems (env : Env) (registryId modelId : String) :
    List Row → ReindexProg (List Failure)
  | [] => return []
  | item :: items => do
    let result ← processSignal env registryId modelId item
    let failures ← processItems env registryId modelId items
    match result with
    | .error failure => return failure :: failures
    | .ok () => return failures

def segmentResult (segment : Nat) (failures : List Failure) : Except SegmentError Unit :=
  if failures = [] then .ok () else .error (.processing segment failures)

/-- Scans on until a page comes without a key to go on from. With too little fuel the segment is
left unfinished. -/
def scanPages (env : Env) (message : ReindexSegmentMessage) :
    Nat → Option Nat → List Failure → ReindexProg (Option (Except SegmentError Unit))
  | 0, _, _ => return none
  | fuel + 1, lastEvaluatedKey, failures => do
    let res : Except DbError ScanPage ←
      Prog.perform (Cmd.scan message.segment message.totalSegments lastEvaluatedKey)
    match res with
    | .error e => return some (.error (.db e))
    | .ok page => do
      let found ← processItems env message.targetRegistryId message.modelId page.items
      match page.lastEvaluatedKey with
      | some key => scanPages env message fuel (some key) (failures ++ found)
      | none => return some (segmentResult message.segment (failures ++ found))

def processSegmentMessage (env : Env) (fuel : Nat) (message : ReindexSegmentMessage) :
    ReindexProg (Option (Except SegmentError Unit)) :=
  match getRegistryById message.targetRegistryId with
  | none =>
    return some (.error (.db
      ⟨"Cluster \"" ++ message.targetRegistryId ++ "\" not found in registry"⟩))
  | some _ => scanPages env message fuel none []

/-- The messages of a job, if the cluster is registered. -/
def dispatch (jobId targetRegistryId : String) (segmentCount : Nat) :
    Option (List ReindexSegmentMessage) :=
  (getRegistryById targetRegistryId).map fun cluster =>
    (List.range segmentCount).map fun segment =>
      ⟨jobId, segment, segmentCount, targetRegistryId, cluster.modelId⟩

def processMessages (env : Env) (fuel : Nat) :
    List ReindexSegmentMessage → ReindexProg (List (Option (Except SegmentError Unit)))
  | [] => return []
  | message :: messages => do
    let result ← processSegmentMessage env fuel message
    let results ← processMessages env fuel messages
    return result :: results

/-! ## The services -/

/-- The signals table and the target cluster. -/
structure World where
  table : KeyedTable Row.pk
  cluster : KeyedTable EmbeddingRow.key

/-- What the services hold besides, and how a scan cuts the table up: the keys of a segment, page
by page, for a number of segments. -/
structure Backend where
  objects : String → String
  parsed : String → ParsedMime
  embed : String → String → List Int
  pages : Nat → Nat → List (List String)

def setEmbedding (modelId : String) (vector : List Int) (embeddings : Embeddings) : Embeddings :=
  (modelId, vector) :: embeddings.filter fun entry => entry.1 ≠ modelId

/-- The row with the vector in its map of embeddings. A path through a map that is missing is
not valid. -/
def Row.withEmbedding (modelId : String) (vector : List Int) : Row → Option Row
  | .signal s =>
    match s.data with
    | .inboundEmail recipientAddress (some embeddings) s3Key =>
      some (.signal { s with
        data := .inboundEmail recipientAddress (some (setEmbedding modelId vector embeddings))
          s3Key })
    | _ => none
  | _ => none

def scanPage (backend : Backend) (table : KeyedTable Row.pk) (segment totalSegments : Nat)
    (start : Nat) : ScanPage :=
  let pages := backend.pages totalSegments segment
  ⟨((pages.getD start []).filter fun pk => Marked pk).filterMap table.get,
    if start + 1 < pages.length then some (start + 1) else none⟩

def invalidPath : DbError :=
  ⟨"The document path provided in the update expression is invalid for update"⟩

def notNullViolation : DbError := ⟨"null value in column violates not-null constraint"⟩

def exec (backend : Backend) : (c : Cmd) → World → c.Answer × World
  | .scan segment totalSegments start, w =>
    (.ok (scanPage backend w.table segment totalSegments (start.getD 0)), w)
  | .getObject key, w => (.ok (some (backend.objects key)), w)
  | .parseBuffer rawBytes, w => (.ok (backend.parsed rawBytes), w)
  | .generateForModel text modelId, w => (.ok (backend.embed text modelId), w)
  | .updateEmbeddings pk modelId vector, w =>
    match (w.table.get pk).bind (Row.withEmbedding modelId vector) with
    | some row => (.ok (), { w with table := w.table.put row })
    | none => (.error invalidPath, w)
  | .insertEmbedding values, w =>
    match values.row? with
    | some row => (.ok (), { w with cluster := w.cluster.put row })
    | none => (.error notNullViolation, w)

def requestFailed : DbError := ⟨"request failed"⟩

def failure : (c : Cmd) → c.Answer
  | .scan .. => .error requestFailed
  | .getObject _ => .error requestFailed
  | .parseBuffer _ => .error requestFailed
  | .generateForModel .. => .error requestFailed
  | .updateEmbeddings .. => .error requestFailed
  | .insertEmbedding _ => .error requestFailed

/-- Any call can fail. Its usual turn is that it does not. -/
def service (backend : Backend) : Service Cmd Cmd.Answer World Fate :=
  ⟨settleRequest (exec backend) failure, .done⟩

/-! ## What the worker writes for a row -/

/-- The key of the embedding of a signal, if it has a thread and a recipient. -/
def SignalRow.embeddingKey (s : SignalRow) : Option EmbeddingKey := do
  let threadId ← s.threadId
  let recipientAddress ← s.data.attributes.recipientAddress
  return ⟨s.id, threadId, s.accountId, recipientAddress⟩

/-- The vector is cached, or it can be regenerated and cached: the row has a message in S3 and a
map of embeddings to put it in. -/
def SignalRow.HasSource (modelId : String) (s : SignalRow) : Prop :=
  (cachedVector modelId s).isSome ∨
    (s.data.attributes.embeddings.isSome ∧ (s.data.attributes.s3Key.filter (· ≠ "")).isSome)

instance (modelId : String) (s : SignalRow) : Decidable (s.HasSource modelId) :=
  inferInstanceAs (Decidable (_ ∨ _))

def Row.writtenKey (modelId : String) : Row → Option EmbeddingKey
  | .signal s => if s.HasSource modelId then s.embeddingKey else none
  | _ => none

def World.Holds (w : World) (key : EmbeddingKey) : Prop := (w.cluster.get key).isSome

/-- The rows under keys that the filter of the scan lets through. -/
def rowsAt (table : KeyedTable Row.pk) (pks : List String) : List Row :=
  (pks.filter fun pk => Marked pk).filterMap table.get

/-- The rows under some keys have been processed, and no others: `clean` says that none failed. -/
structure Swept (modelId : String) (w : World) (pks : List String) (clean : Prop) (w' : World) :
    Prop where
  frame : ∀ pk ∉ pks, w'.table.get pk = w.table.get pk
  holds : ∀ key, w'.Holds key ↔
    w.Holds key ∨ ∃ row ∈ rowsAt w.table pks, row.writtenKey modelId = some key
  clean : clean ↔ ∀ row ∈ rowsAt w.table pks, (row.writtenKey modelId).isSome

variable {env : Env} {backend : Backend} {registryId modelId : String} {w w' w'' : World}
  {pk : String} {pks pks' : List String} {clean clean' : Prop} {row : Row} {s : SignalRow}

theorem rowsAt_append (table : KeyedTable Row.pk) (pks pks' : List String) :
    rowsAt table (pks ++ pks') = rowsAt table pks ++ rowsAt table pks' := by
  simp [rowsAt]

theorem rowsAt_congr {table table' : KeyedTable Row.pk}
    (h : ∀ pk ∈ pks, table'.get pk = table.get pk) : rowsAt table' pks = rowsAt table pks :=
  List.filterMap_congr fun pk hpk => h pk (List.mem_of_mem_filter hpk)

theorem Swept.nothing (h : rowsAt w.table pks = []) (hclean : clean) :
    Swept modelId w pks clean w where
  frame _ _ := rfl
  holds key := by simp [h]
  clean := by simp [h, hclean]

/-- Sweeps of different keys add up. -/
theorem Swept.append (h : Swept modelId w pks clean w') (h' : Swept modelId w' pks' clean' w'')
    (hdisjoint : pks.Disjoint pks') : Swept modelId w (pks ++ pks') (clean ∧ clean') w'' := by
  have hrows : rowsAt w'.table pks' = rowsAt w.table pks' :=
    rowsAt_congr fun pk hpk => h.frame pk fun hmem => hdisjoint hmem hpk
  refine ⟨?_, ?_, ?_⟩
  · intro pk hpk
    rw [List.mem_append, not_or] at hpk
    rw [h'.frame pk hpk.2, h.frame pk hpk.1]
  · intro key
    rw [h'.holds, h.holds, hrows, rowsAt_append]
    simp only [List.mem_append, or_and_right, exists_or, or_assoc]
  · rw [h.clean, h'.clean, hrows, rowsAt_append]
    simp only [List.mem_append, or_imp, forall_and]

theorem Swept.congr (h : Swept modelId w pks clean w') (hclean : clean ↔ clean') :
    Swept modelId w pks clean' w' :=
  ⟨h.frame, h.holds, hclean.symm.trans h.clean⟩

/-- One row: what became of the rest of the table, of the cluster and of the row itself. -/
theorem Swept.single (hrow : w.table.get pk = some row) (hmarked : Marked pk)
    (hframe : ∀ pk' ≠ pk, w'.table.get pk' = w.table.get pk')
    (hholds : ∀ key, w'.Holds key ↔ w.Holds key ∨ row.writtenKey modelId = some key)
    (hclean : clean ↔ (row.writtenKey modelId).isSome) : Swept modelId w [pk] clean w' := by
  have hrows : rowsAt w.table [pk] = [row] := by simp [rowsAt, hmarked, hrow]
  refine ⟨?_, ?_, ?_⟩
  · intro pk' hpk'
    exact hframe pk' (by simpa using hpk')
  · simpa [hrows] using hholds
  · simpa [hrows] using hclean

/-! ## One row -/

theorem holds_put (w : World) (row : EmbeddingRow) (key : EmbeddingKey) :
    (World.mk w.table (w.cluster.put row)).Holds key ↔ w.Holds key ∨ row.key = key := by
  simp only [World.Holds, KeyedTable.get_put]
  by_cases h : key = row.key
  · simp [h]
  · simp [h, Ne.symm h]

variable (env backend)

/-- An upsert goes through just when the signal has a key to put it under. -/
theorem eval_upsertEmbedding (hregistered : (getRegistryById registryId).isSome) (s : SignalRow)
    (vector : List Int) (w : World) :
    ∃ result w', (upsertEmbedding env registryId s vector).eval (service backend) w =
        (result, w') ∧ w'.table = w.table ∧
      (result = .ok () ↔ s.embeddingKey.isSome) ∧
      ∀ key, w'.Holds key ↔ w.Holds key ∨ s.embeddingKey = some key := by
  obtain ⟨cluster, hcluster⟩ := Option.isSome_iff_exists.mp hregistered
  have heval : (upsertEmbedding env registryId s vector).eval (service backend) w =
      exec backend (.insertEmbedding ⟨s.id, s.threadId, s.accountId,
        s.data.attributes.recipientAddress, vector, expiryOf env s⟩) w := by
    simp only [upsertEmbedding, hcluster]
    rfl
  rw [heval, SignalRow.embeddingKey]
  simp only [exec, InsertValues.row?]
  cases s.threadId with
  | none => exact ⟨_, w, rfl, rfl, by simp, by simp⟩
  | some threadId =>
    cases s.data.attributes.recipientAddress with
    | none => exact ⟨_, w, rfl, rfl, by simp, by simp⟩
    | some recipientAddress =>
      refine ⟨_, _, rfl, rfl, by simp, fun key => ?_⟩
      exact (holds_put w _ key).trans (by simp [EmbeddingRow.key])

theorem failing_eq_ok {α : Type} {result : Except DbError α} {a : α} :
    failing s result = .ok a ↔ result = .ok a := by
  cases result <;> simp [failing, Except.mapError]

/-- The row with its new vector is still under its key. -/
theorem withEmbedding_pk {vector : List Int} {row row' : Row}
    (h : row.withEmbedding modelId vector = some row') : row'.pk = row.pk := by
  unfold Row.withEmbedding at h
  split at h
  · split at h
    · obtain rfl := Option.some.inj h
      rfl
    · cases h
  · cases h

theorem withEmbedding_isSome (modelId : String) (vector : List Int) (s : SignalRow) :
    ((Row.signal s).withEmbedding modelId vector).isSome ↔ s.data.attributes.embeddings.isSome := by
  cases hdata : s.data with
  | inboundEmail recipientAddress embeddings s3Key =>
    cases embeddings <;> simp [Row.withEmbedding, SignalData.attributes, hdata]
  | _ => simp [Row.withEmbedding, SignalData.attributes, hdata]

/-- The cache takes a vector where the row has a map for it, and changes no other row. -/
theorem eval_addEmbeddingToCache (modelId : String)
    (hrow : w.table.get (Row.signal s).pk = some (.signal s))
    (vector : List Int) :
    ∃ result w', (addEmbeddingToCache s.accountId s.signalLookupId modelId vector).eval
        (service backend) w = (result, w') ∧ w'.cluster = w.cluster ∧
      (∀ pk ≠ (Row.signal s).pk, w'.table.get pk = w.table.get pk) ∧
      (result = .ok () ↔ s.data.attributes.embeddings.isSome) := by
  rw [← withEmbedding_isSome modelId vector]
  have heval : (addEmbeddingToCache s.accountId s.signalLookupId modelId vector).eval
      (service backend) w =
      exec backend (.updateEmbeddings (Row.signal s).pk modelId vector) w := rfl
  rw [heval]
  simp only [exec, hrow, Option.bind_some]
  cases hput : (Row.signal s).withEmbedding modelId vector with
  | none => exact ⟨_, w, rfl, rfl, fun _ _ => rfl, by simp⟩
  | some row =>
    refine ⟨_, _, rfl, rfl, fun pk hpk => ?_, by simp⟩
    exact KeyedTable.get_put_ne _ _ (by rwa [withEmbedding_pk hput])

theorem eval_generateEmbeddingFromS3 (s3Key accountId recipientAddress modelId : String)
    (w : World) :
    ∃ vector, (generateEmbeddingFromS3 env s3Key accountId recipientAddress modelId).eval
      (service backend) w = (.ok vector, w) :=
  ⟨_, rfl⟩

/-- What a row leaves: the other rows as they were, and its embedding if it has a source, a thread
and a recipient. If not, it fails. -/
theorem eval_pureCopyToAurora (hregistered : (getRegistryById registryId).isSome) (s : SignalRow)
    (vector : List Int) (w : World) :
    ∃ result w', (pureCopyToAurora env s vector registryId).eval (service backend) w =
        (result, w') ∧ w'.table = w.table ∧
      (result = .ok () ↔ s.embeddingKey.isSome) ∧
      ∀ key, w'.Holds key ↔ w.Holds key ∨ s.embeddingKey = some key := by
  obtain ⟨result, w', heval, htable, hresult, hholds⟩ :=
    eval_upsertEmbedding env backend hregistered s vector w
  refine ⟨failing s result, w', ?_, htable, failing_eq_ok.trans hresult, hholds⟩
  rw [pureCopyToAurora, Prog.eval_map, heval]

theorem eval_regenerateFromS3 (hregistered : (getRegistryById registryId).isSome)
    (hcached : cachedVector modelId s = none)
    (hrow : w.table.get (Row.signal s).pk = some (.signal s)) :
    ∃ result w', (regenerateFromS3 env s registryId modelId).eval (service backend) w =
        (result, w') ∧
      (∀ pk ≠ (Row.signal s).pk, w'.table.get pk = w.table.get pk) ∧
      (result = .ok () ↔ ((Row.signal s).writtenKey modelId).isSome) ∧
      ∀ key, w'.Holds key ↔ w.Holds key ∨ (Row.signal s).writtenKey modelId = some key := by
  have hsource : s.HasSource modelId ↔ s.data.attributes.embeddings.isSome ∧
      (s.data.attributes.s3Key.filter (· ≠ "")).isSome := by
    simp [SignalRow.HasSource, hcached]
  simp only [regenerateFromS3, Row.writtenKey, hsource]
  cases hkey : s.data.attributes.s3Key.filter (· ≠ "") with
  | none => exact ⟨_, w, rfl, fun _ _ => rfl, by simp, by simp⟩
  | some s3Key =>
    obtain ⟨vector, hgenerate⟩ := eval_generateEmbeddingFromS3 env backend
      (effectiveEmailKey env s3Key s.createdAt) s.accountId
      (s.data.attributes.recipientAddress.getD "undefined") modelId w
    obtain ⟨cached, w₁, hcache, hcluster, hframe, hmap⟩ :=
      eval_addEmbeddingToCache backend modelId hrow vector
    simp only [Prog.eval_bind, hgenerate, failing, Except.mapError, hcache]
    cases cached with
    | error error =>
      have hnone : s.data.attributes.embeddings.isSome = false := by simpa using hmap
      refine ⟨_, w₁, rfl, hframe, by simp [hnone], fun key => ?_⟩
      simp [hnone, World.Holds, hcluster]
    | ok =>
      have hsome : s.data.attributes.embeddings.isSome = true := by simpa using hmap
      obtain ⟨result, w₂, hcopy, htable, hresult, hholds⟩ :=
        eval_pureCopyToAurora env backend hregistered s vector w₁
      refine ⟨result, w₂, hcopy, ?_, ?_, ?_⟩
      · simpa only [htable] using hframe
      · simpa [hsome] using hresult
      · intro key
        rw [hholds, World.Holds, hcluster]
        simp [hsome, World.Holds]

theorem eval_processSignal (modelId : String)
    (hregistered : (getRegistryById registryId).isSome)
    (hrow : w.table.get pk = some row) (hmarked : Marked pk) :
    ∃ result w', (processSignal env registryId modelId row).eval (service backend) w =
      (result, w') ∧ Swept modelId w [pk] (result = .ok ()) w' := by
  obtain rfl := KeyedTable.key_of_get hrow
  cases row with
  | bare accountId signalLookupId =>
    exact ⟨_, w, rfl, .single hrow hmarked (fun _ _ => rfl) (by simp [Row.writtenKey])
      (by simp [Row.writtenKey])⟩
  | thread accountId id =>
    exact ⟨_, w, rfl, .single hrow hmarked (fun _ _ => rfl) (by simp [Row.writtenKey])
      (by simp [Row.writtenKey])⟩
  | signal s =>
    cases hcached : cachedVector modelId s with
    | none =>
      obtain ⟨result, w', heval, hframe, hresult, hholds⟩ :=
        eval_regenerateFromS3 env backend hregistered hcached hrow
      refine ⟨result, w', ?_, .single hrow hmarked hframe hholds hresult⟩
      rw [processSignal, hcached]
      exact heval
    | some vector =>
      have hsource : s.HasSource modelId := .inl (by rw [hcached]; rfl)
      have hkey : (Row.signal s).writtenKey modelId = s.embeddingKey := if_pos hsource
      obtain ⟨result, w', heval, htable, hresult, hholds⟩ :=
        eval_pureCopyToAurora env backend hregistered s vector w
      refine ⟨result, w', ?_, .single hrow hmarked ?_ ?_ ?_⟩
      · rw [processSignal, hcached]
        exact heval
      · intro pk' hpk'
        rw [htable]
      · rwa [hkey]
      · rwa [hkey]

/-! ## Pages, segments, jobs -/

/-- The items of a page are processed in turn. None of them touches the row of another. -/
theorem eval_processItems (modelId : String)
    (hregistered : (getRegistryById registryId).isSome)
    (hnodup : pks.Nodup) (w : World) :
    ∃ failures w', (processItems env registryId modelId (rowsAt w.table pks)).eval
        (service backend) w = (failures, w') ∧ Swept modelId w pks (failures = []) w' := by
  induction pks generalizing w with
  | nil => exact ⟨[], w, rfl, .nothing rfl rfl⟩
  | cons pk pks ih =>
    obtain ⟨hpk, hnodup⟩ := List.nodup_cons.mp hnodup
    have hcons : rowsAt w.table (pk :: pks) = rowsAt w.table [pk] ++ rowsAt w.table pks :=
      rowsAt_append w.table [pk] pks
    have hdisjoint : List.Disjoint [pk] pks := by simpa using hpk
    have hskip (hempty : rowsAt w.table [pk] = []) : ∃ failures w',
        (processItems env registryId modelId (rowsAt w.table (pk :: pks))).eval
          (service backend) w = (failures, w') ∧
        Swept modelId w (pk :: pks) (failures = []) w' := by
      obtain ⟨failures, w', heval, hswept⟩ := ih hnodup w
      refine ⟨failures, w', by rw [hcons, hempty]; exact heval, ?_⟩
      exact ((Swept.nothing hempty trivial).append hswept hdisjoint).congr (by simp)
    by_cases hmarked : Marked pk
    · cases hrow : w.table.get pk with
      | none => exact hskip (by simp [rowsAt, hmarked, hrow])
      | some row =>
        obtain ⟨result, w₁, hprocess, hfirst⟩ := eval_processSignal env backend
          modelId hregistered hrow hmarked
        obtain ⟨failures, w₂, hrest, hswept⟩ := ih hnodup w₁
        have hrows : rowsAt w₁.table pks = rowsAt w.table pks :=
          rowsAt_congr fun pk' hpk' => hfirst.frame pk' fun hmem => hdisjoint hmem hpk'
        rw [hrows] at hrest
        have hitems : rowsAt w.table (pk :: pks) = row :: rowsAt w.table pks := by
          rw [hcons]
          simp [rowsAt, hmarked, hrow]
        simp only [hitems, processItems, Prog.eval_bind, hprocess, hrest]
        cases result with
        | error failure =>
          exact ⟨_, w₂, rfl, (hfirst.append hswept hdisjoint).congr (by simp)⟩
        | ok => exact ⟨_, w₂, rfl, (hfirst.append hswept hdisjoint).congr (by simp)⟩
    · exact hskip (by simp [rowsAt, hmarked])

theorem flatten_drop (pages : List (List String)) (start : Nat) :
    (pages.drop start).flatten = pages.getD start [] ++ (pages.drop (start + 1)).flatten := by
  rcases lt_or_ge start pages.length with hstart | hstart
  · rw [List.drop_eq_getElem_cons hstart, List.flatten_cons, List.getD_eq_getElem?_getD,
      List.getElem?_eq_getElem hstart, Option.getD_some]
  · rw [List.drop_eq_nil_of_le hstart, List.drop_eq_nil_of_le (Nat.le_succ_of_le hstart)]
    simp [hstart]

/-- With fuel for the pages that are left the scan reads them all. -/
theorem eval_scanPages (message : ReindexSegmentMessage)
    (hregistered : (getRegistryById message.targetRegistryId).isSome) {pages : List (List String)}
    (hpages : backend.pages message.totalSegments message.segment = pages) {fuel : Nat}
    (lastEvaluatedKey : Option Nat) (hstart : lastEvaluatedKey.getD 0 ≤ pages.length)
    (hfuel : pages.length < lastEvaluatedKey.getD 0 + fuel)
    (hnodup : (pages.drop (lastEvaluatedKey.getD 0)).flatten.Nodup) (failures : List Failure)
    (w : World) :
    ∃ found w', (scanPages env message fuel lastEvaluatedKey failures).eval (service backend) w =
        (some (segmentResult message.segment (failures ++ found)), w') ∧
      Swept message.modelId w (pages.drop (lastEvaluatedKey.getD 0)).flatten (found = []) w' := by
  induction fuel generalizing lastEvaluatedKey failures w with
  | zero => omega
  | succ fuel ih =>
    generalize hkey : lastEvaluatedKey.getD 0 = start at hstart hfuel hnodup ⊢
    rw [flatten_drop] at hnodup ⊢
    obtain ⟨hpage, hrest, hdisjoint⟩ := List.nodup_append'.mp hnodup
    obtain ⟨found, w₁, hitems, hswept⟩ := eval_processItems env backend message.modelId
      hregistered hpage w
    have hscan : (service backend).settle (.scan message.segment message.totalSegments
        lastEvaluatedKey) w (service backend).usual =
        (.ok ⟨rowsAt w.table (pages.getD start []),
          if start + 1 < pages.length then some (start + 1) else none⟩, w) := by
      rw [← hkey, ← hpages]
      rfl
    simp only [scanPages, Prog.perform, Prog.call_bind, Prog.ret_bind, Prog.eval_call, hscan,
      Prog.eval_bind, hitems]
    by_cases hmore : start + 1 < pages.length
    · obtain ⟨found', w₂, hscanned, hswept'⟩ := ih (some (start + 1))
        (by simpa using hmore.le) (by simp; omega) (by simpa using hrest) (failures ++ found) w₁
      refine ⟨found ++ found', w₂, ?_, ?_⟩
      · rw [if_pos hmore]
        simpa using hscanned
      · exact (hswept.append hswept' hdisjoint).congr (by simp)
    · rw [if_neg hmore]
      refine ⟨found, w₁, rfl, ?_⟩
      rw [List.drop_eq_nil_of_le (not_lt.mp hmore), List.flatten_nil, List.append_nil]
      exact hswept

theorem segmentResult_eq_ok {segment : Nat} {failures : List Failure} :
    segmentResult segment failures = .ok () ↔ failures = [] := by
  unfold segmentResult
  split <;> simp_all

/-- The keys of some segments of a scan, all pages of them. -/
def Backend.keys (backend : Backend) (totalSegments : Nat) (segments : List Nat) : List String :=
  segments.flatMap fun segment => (backend.pages totalSegments segment).flatten

/-- Every segment gets to its end, with an error if one of its rows fails. -/
theorem eval_processMessages (jobId modelId : String) {targetRegistryId : String}
    {totalSegments fuel : Nat}
    (hregistered : (getRegistryById targetRegistryId).isSome) {segments : List Nat}
    (hfuel : ∀ segment ∈ segments, (backend.pages totalSegments segment).length < fuel)
    (hnodup : (backend.keys totalSegments segments).Nodup) (w : World) :
    ∃ results w', (processMessages env fuel (segments.map fun segment =>
        ⟨jobId, segment, totalSegments, targetRegistryId, modelId⟩)).eval (service backend) w =
        (results, w') ∧
      Swept modelId w (backend.keys totalSegments segments)
        (∀ result ∈ results, result = some (.ok ())) w' := by
  induction segments generalizing w with
  | nil => exact ⟨[], w, rfl, .nothing rfl (by simp)⟩
  | cons segment segments ih =>
    obtain ⟨hsegment, hsegments⟩ := List.forall_mem_cons.mp hfuel
    obtain ⟨hfirst, hrest, hdisjoint⟩ := List.nodup_append'.mp hnodup
    obtain ⟨found, w₁, hscanned, hswept⟩ := eval_scanPages env backend
      ⟨jobId, segment, totalSegments, targetRegistryId, modelId⟩ hregistered rfl none
      (Nat.zero_le _) (by simpa using hsegment) hfirst [] w
    obtain ⟨results, w₂, hothers, hswept'⟩ := ih hsegments hrest w₁
    obtain ⟨cluster, hcluster⟩ := Option.isSome_iff_exists.mp hregistered
    refine ⟨some (segmentResult segment found) :: results, w₂, ?_,
      (hswept.append hswept' hdisjoint).congr ?_⟩
    · simp only [List.map_cons, processMessages, processSegmentMessage, hcluster, Prog.eval_bind,
        hscanned, hothers]
      rfl
    · simp [segmentResult_eq_ok]

variable {env backend}

/-! ## When a job completes and is faithful -/

/-- The key that the embedding of a threaded inbound email belongs under. -/
def SignalRow.expectedKey (s : SignalRow) : Option EmbeddingKey :=
  match s.data, s.threadId with
  | .inboundEmail recipientAddress _ _, some threadId =>
    if threadId = "" then none else some ⟨s.id, threadId, s.accountId, recipientAddress⟩
  | _, _ => none

/-- The cluster holds an embedding for each threaded inbound email of the table, under its
thread, account and recipient, and none besides. -/
def Faithful (table : KeyedTable Row.pk) (w : World) : Prop :=
  ∀ key, w.Holds key ↔ ∃ s, .signal s ∈ table.rows ∧ s.expectedKey = some key

/-- Whatever the filter lets through is a threaded inbound email with a source for its embedding,
and the cluster has nothing else in it to begin with. -/
structure Ready (modelId : String) (w : World) : Prop where
  rows : ∀ row ∈ w.table.rows, Marked row.pk →
    ∃ s, row = .signal s ∧ s.expectedKey.isSome ∧ s.HasSource modelId
  cluster : ∀ row ∈ w.cluster.rows,
    ∃ s, .signal s ∈ w.table.rows ∧ s.expectedKey = some row.key

theorem marked_signal (s : SignalRow) : Marked (Row.signal s).pk := by
  refine ⟨("ACCT#" ++ s.accountId).toList, s.signalLookupId.toList, ?_⟩
  simp [Row.pk, sigPk]

variable {key : EmbeddingKey}

theorem embeddingKey_of_expectedKey (h : s.expectedKey = some key) :
    s.embeddingKey = some key ∧ key.threadId ≠ "" := by
  unfold SignalRow.expectedKey at h
  split at h
  · next hdata hthread =>
    split at h
    · cases h
    · next hne =>
      obtain rfl := Option.some.inj h
      exact ⟨by simp [SignalRow.embeddingKey, hthread, hdata, SignalData.attributes], hne⟩
  · cases h

/-- Only inbound mail has a source. -/
theorem expectedKey_of_embeddingKey (hsource : s.HasSource modelId)
    (h : s.embeddingKey = some key) (hne : key.threadId ≠ "") : s.expectedKey = some key := by
  obtain ⟨id, lookupId, accountId, threadId, createdAt, retentionDuration, data⟩ := s
  cases data with
  | inboundEmail recipientAddress embeddings s3Key =>
    cases threadId with
    | none => cases h
    | some threadId =>
      obtain rfl := Option.some.inj h
      exact if_neg hne
  | _ => simp [SignalRow.HasSource, cachedVector, SignalData.attributes] at hsource

theorem writtenKey_eq_some (h : row.writtenKey modelId = some key) :
    ∃ s, row = .signal s ∧ s.HasSource modelId ∧ s.embeddingKey = some key := by
  cases row with
  | signal s =>
    by_cases hsource : s.HasSource modelId
    · exact ⟨s, rfl, hsource, (if_pos hsource).symm.trans h⟩
    · cases (if_neg hsource).symm.trans h
  | bare => cases h
  | thread => cases h

theorem holds_iff_mem :
    w.Holds key ↔ ∃ row ∈ w.cluster.rows, row.key = key := by
  constructor
  · intro h
    obtain ⟨row, hrow⟩ := Option.isSome_iff_exists.mp h
    exact ⟨row, KeyedTable.mem_rows_of_get hrow, KeyedTable.key_of_get hrow⟩
  · rintro ⟨row, hrow, rfl⟩
    exact Option.isSome_iff_exists.mpr ⟨row, KeyedTable.mem_rows_iff.mp hrow⟩

/-- A scan of all keys gets the marked rows of the table. -/
theorem mem_rowsAt {table : KeyedTable Row.pk} (hscan : pks.Perm (table.rows.map Row.pk)) :
    row ∈ rowsAt table pks ↔ row ∈ table.rows ∧ Marked row.pk := by
  simp only [rowsAt, List.mem_filterMap, List.mem_filter, decide_eq_true_eq]
  constructor
  · rintro ⟨pk, ⟨-, hmarked⟩, hget⟩
    obtain rfl := KeyedTable.key_of_get hget
    exact ⟨KeyedTable.mem_rows_of_get hget, hmarked⟩
  · rintro ⟨hrow, hmarked⟩
    exact ⟨row.pk, ⟨hscan.mem_iff.mpr (List.mem_map_of_mem hrow), hmarked⟩,
      KeyedTable.mem_rows_iff.mp hrow⟩

theorem writtenKey_of_expectedKey (hsource : s.HasSource modelId)
    (h : s.expectedKey = some key) : (Row.signal s).writtenKey modelId = some key :=
  (if_pos hsource).trans (embeddingKey_of_expectedKey h).1

/-- From a cluster in order, with a source for every row, the sweep meets no failure and writes
what is expected. -/
theorem Ready.faithful (hready : Ready modelId w) (hscan : pks.Perm (w.table.rows.map Row.pk))
    (h : Swept modelId w pks clean w') : clean ∧ Faithful w.table w' := by
  constructor
  · refine h.clean.mpr fun row hrow => ?_
    obtain ⟨hmem, hmarked⟩ := (mem_rowsAt hscan).mp hrow
    obtain ⟨s, rfl, hexpected, hsource⟩ := hready.rows row hmem hmarked
    obtain ⟨key, hkey⟩ := Option.isSome_iff_exists.mp hexpected
    rw [writtenKey_of_expectedKey hsource hkey]
    rfl
  · intro key
    rw [h.holds, holds_iff_mem]
    constructor
    · rintro (⟨row, hrow, rfl⟩ | ⟨row, hrow, hwritten⟩)
      · exact hready.cluster row hrow
      · obtain ⟨hmem, hmarked⟩ := (mem_rowsAt hscan).mp hrow
        obtain ⟨s, rfl, hexpected, hsource⟩ := hready.rows row hmem hmarked
        obtain ⟨key', hkey'⟩ := Option.isSome_iff_exists.mp hexpected
        rw [writtenKey_of_expectedKey hsource hkey'] at hwritten
        exact ⟨s, hmem, hkey'.trans hwritten⟩
    · rintro ⟨s, hmem, hexpected⟩
      obtain ⟨s', hs', -, hsource⟩ := hready.rows _ hmem (marked_signal s)
      obtain rfl := Row.signal.inj hs'
      exact .inr ⟨_, (mem_rowsAt hscan).mpr ⟨hmem, marked_signal s⟩,
        writtenKey_of_expectedKey hsource hexpected⟩

/-- A row without a source, or in the wrong place, shows: it fails, or leaves an embedding that
belongs to no threaded email. -/
theorem Ready.of_faithful (hscan : pks.Perm (w.table.rows.map Row.pk))
    (h : Swept modelId w pks clean w') (hclean : clean) (hfaithful : Faithful w.table w') :
    Ready modelId w := by
  refine ⟨fun row hrow hmarked => ?_, fun row hrow => ?_⟩
  · have hmem := (mem_rowsAt hscan).mpr ⟨hrow, hmarked⟩
    obtain ⟨key, hwritten⟩ := Option.isSome_iff_exists.mp (h.clean.mp hclean row hmem)
    obtain ⟨s, rfl, hsource, hkey⟩ := writtenKey_eq_some hwritten
    have hholds : w'.Holds key := (h.holds key).mpr (.inr ⟨_, hmem, hwritten⟩)
    obtain ⟨s', -, hs'⟩ := (hfaithful key).mp hholds
    have hexpected := expectedKey_of_embeddingKey hsource hkey (embeddingKey_of_expectedKey hs').2
    exact ⟨s, rfl, by rw [hexpected]; rfl, hsource⟩
  · exact (hfaithful row.key).mp ((h.holds _).mpr (.inl (holds_iff_mem.mpr ⟨row, hrow, rfl⟩)))

/-- No call fails. Then all segments are processed without an error, and the cluster is faithful to
the table, just when the table and the cluster were ready for it. -/
theorem job_faithful_iff {jobId targetRegistryId : String} {cluster : ClusterRegistryEntry}
    {segmentCount fuel : Nat} {messages : List ReindexSegmentMessage}
    (hcluster : getRegistryById targetRegistryId = some cluster)
    (hdispatch : dispatch jobId targetRegistryId segmentCount = some messages)
    (hscan : (backend.keys segmentCount (List.range segmentCount)).Perm
      (w.table.rows.map Row.pk))
    (hfuel : ∀ segment < segmentCount, (backend.pages segmentCount segment).length < fuel) :
    (∀ result ∈ ((processMessages env fuel messages).eval (service backend) w).1,
        result = some (.ok ())) ∧
      Faithful w.table ((processMessages env fuel messages).eval (service backend) w).2 ↔
    Ready cluster.modelId w := by
  rw [dispatch, hcluster, Option.map_some] at hdispatch
  obtain rfl := Option.some.inj hdispatch
  obtain ⟨results, w', heval, hswept⟩ := eval_processMessages env backend jobId
    cluster.modelId (by rw [hcluster]; rfl)
    (fun segment hsegment => hfuel segment (List.mem_range.mp hsegment))
    (hscan.nodup_iff.mpr w.table.distinct) w
  rw [heval]
  constructor
  · rintro ⟨hclean, hfaithful⟩
    exact .of_faithful hscan hswept hclean hfaithful
  · intro hready
    exact hready.faithful hscan hswept

/-! A table of a received email and its thread, cut into two segments, and one of a draft. -/

def plainEnv : Env := ⟨⟨fun _ => none, fun _ => ""⟩, fun _ => false, fun _ _ => none⟩

def backendOf (pages : Nat → List (List String)) : Backend where
  objects _ := ""
  parsed _ := ⟨⟨"", none⟩, [], "", [], [], none, none, none⟩
  embed _ _ := [0]
  pages _ := pages

def titan : ClusterRegistryEntry := ⟨"aurora-prod-titan-v2", "amazon.titan-embed-text-v2:0"⟩

def received : SignalRow :=
  ⟨"sgn-1", "ses-1", "acc-1", some "thr-1", "2026-01-01T00:00:00Z", some "P3M",
    .inboundEmail "me@mail.example" (some [(titan.modelId, [1])]) "emails/1"⟩

def receivedWorld : World :=
  ⟨⟨[.signal received, .thread "acc-1" "thr-1"], by decide⟩, .empty⟩

def receivedBackend : Backend :=
  backendOf fun segment => if segment = 0 then [[threadPk "acc-1" "thr-1"]]
    else [[], [sigPk "acc-1" "ses-1"]]

def messagesOf (segmentCount : Nat) : List ReindexSegmentMessage :=
  (dispatch "job" titan.registryId segmentCount).getD []

theorem titan_registered : getRegistryById titan.registryId = some titan := by decide +kernel

theorem receivedWorld_ready : Ready titan.modelId receivedWorld := by
  refine ⟨fun row hrow hmarked => ?_, fun row hrow => by cases hrow⟩
  simp only [receivedWorld, List.mem_cons, List.not_mem_nil, or_false] at hrow
  rcases hrow with rfl | rfl
  · exact ⟨received, rfl, by decide +kernel, by decide +kernel⟩
  · exact absurd hmarked (by decide +kernel)

theorem receivedWorld_faithful :
    (∀ result ∈ ((processMessages plainEnv 3 (messagesOf 2)).eval (service receivedBackend)
        receivedWorld).1, result = some (.ok ())) ∧
      Faithful receivedWorld.table ((processMessages plainEnv 3 (messagesOf 2)).eval
        (service receivedBackend) receivedWorld).2 :=
  (job_faithful_iff titan_registered rfl (by decide +kernel) (by decide)).mpr
    receivedWorld_ready

def draft : SignalRow :=
  ⟨"sgn-2", "sgn-2", "acc-1", some "thr-1", "2026-01-02T00:00:00Z", some "P3M",
    .outboundEmail "me@mail.example"⟩

def draftWorld : World := ⟨⟨[.signal draft], by decide⟩, .empty⟩

def draftRun : List (Option (Except SegmentError Unit)) × World :=
  (processMessages plainEnv 2 (messagesOf 1)).eval
    (service (backendOf fun _ => [[sigPk "acc-1" "sgn-2"]])) draftWorld

theorem draft_fails :
    draftRun.1 =
      [some (.error (.processing 0 [⟨"sgn-2", .text "no s3Key on signal record"⟩]))] ∧
    ¬ ∀ result ∈ draftRun.1, result = some (.ok ()) := by
  decide +kernel

end SesEmailAdapter.Jobs.ReindexWorker
