import RwaControlPlane.Audit.Partition
import RwaControlPlane.Library.Decimal
import RwaControlPlane.Library.DigestChain

open checked rwa.storage paging digest_chain

namespace rwa.audit

/-- What a checkpoint adds to the digest before it. -/
structure Link where
  through : Int
  count : Nat
  hashes : List String

def linkDigest (platform : Platform) (previousDigest : Option String) (link : Link) : String :=
  digestOf platform previousDigest link.through link.count link.hashes

/-- A link whose columns have the types of the table. `texts` are the texts that the
hash tells apart. -/
structure Admits (texts : Set String) (previousDigest : Option String) (link : Link) : Prop where
  through : 0 < link.through
  previous : previousDigest.all (IsHash ·) = true
  hashes : ∀ hash ∈ link.hashes, IsHash hash
  hashed : digestText previousDigest link.through link.count link.hashes ∈ texts

variable {platform : Platform} {texts : Set String} {previousDigest other : Option String} {link next : Link}

/-- The parts of the text of a checkpoint. -/
def Link.parts (previousDigest : Option String) (link : Link) : List String :=
  [digestPrefix, previousDigest.getD "", link.through.repr, link.count.repr] ++ link.hashes

theorem toList_digestText : (digestText previousDigest link.through link.count link.hashes).toList =
    ['\x1f'].intercalate ((link.parts previousDigest).map String.toList) := by
  have hhashes : (String.join (link.hashes.map ("\x1f" ++ ·))).toList =
      (link.hashes.map String.toList).flatMap ('\x1f' :: ·) := by
    rw [String.toList_join, List.flatMap_map, List.flatMap_map]
    refine List.flatMap_congr fun hash _ => ?_
    rw [String.toList_append]
    rfl
  simp only [digestText, Link.parts, List.cons_append, List.nil_append, List.map_cons, intercalate_cons,
    List.flatMap_cons, String.toList_append, hhashes, List.append_assoc]
  rfl

private theorem separator_not_mem_hash {hash : String} (h : IsHash hash) : '\x1f' ∉ hash.toList := by
  intro hmem
  have hchar := List.all_eq_true.mp h.2 _ hmem
  exact absurd hchar (by decide)

private theorem separator_not_mem_digits (number : Nat) : '\x1f' ∉ number.repr.toList := by
  intro hmem
  rw [Nat.toList_repr] at hmem
  exact absurd (Nat.isDigit_of_mem_toDigits (by decide) (by decide) hmem) (by decide)

/-- No part of the text of a checkpoint holds the separator. -/
theorem Admits.separated (h : Admits texts previousDigest link) :
    ∀ part ∈ (link.parts previousDigest).map String.toList, '\x1f' ∉ part := by
  intro part hpart
  obtain ⟨text, htext, rfl⟩ := List.mem_map.mp hpart
  simp only [Link.parts, List.cons_append, List.nil_append, List.mem_cons] at htext
  rcases htext with rfl | rfl | rfl | rfl | hhash
  · decide
  · cases previousDigest with
    | none => exact List.not_mem_nil
    | some digest => exact separator_not_mem_hash (by simpa using h.previous)
  · rw [Int.repr_eq_if, if_pos h.through.le]
    exact separator_not_mem_digits _
  · exact separator_not_mem_digits _
  · exact separator_not_mem_hash (h.hashes text hhash)

/-- Where the hash tells the texts apart, a digest determines the one before it and its
link. -/
theorem linkDigest_inj (hinj : Set.InjOn platform.sha256 texts) (hlink : Admits texts previousDigest link)
    (hnext : Admits texts other next) (h : linkDigest platform previousDigest link = linkDigest platform other next) :
    previousDigest = other ∧ link = next := by
  have htext := congrArg String.toList (hinj hlink.hashed hnext.hashed h)
  rw [toList_digestText, toList_digestText] at htext
  have hparts := List.map_injective_iff.mpr (fun _ _ => String.toList_inj.mp)
    (intercalate_inj hlink.separated hnext.separated (by simp [Link.parts]) (by simp [Link.parts]) htext)
  simp only [Link.parts, List.cons_append, List.nil_append, List.cons.injEq, true_and] at hparts
  obtain ⟨hprevious, hthrough, hcount, hhashes⟩ := hparts
  constructor
  · have hfirst := hlink.previous
    have hsecond := hnext.previous
    cases previousDigest with
    | none =>
      cases other with
      | none => rfl
      | some digest =>
        have hhash : IsHash digest := by simpa using hsecond
        rw [Option.getD_none, Option.getD_some] at hprevious
        rw [← hprevious] at hhash
        exact absurd hhash.1 (by decide)
    | some first =>
      cases other with
      | none =>
        have hhash : IsHash first := by simpa using hfirst
        rw [Option.getD_none, Option.getD_some] at hprevious
        rw [hprevious] at hhash
        exact absurd hhash.1 (by decide)
      | some second => exact congrArg some hprevious
  · rw [Int.repr_eq_if, Int.repr_eq_if, if_pos hlink.through.le, if_pos hnext.through.le] at hthrough
    have hnumbers := decimal.repr_injective hthrough
    have hfirst := hlink.through
    have hsecond := hnext.through
    have hcounts := decimal.repr_injective hcount
    have hthroughs : link.through = next.through := by omega
    cases link
    cases next
    simp_all

/-- The links of checkpoints above a boundary. -/
def linksFrom (events : List AuditEvent) (tenantId : String) : Int → List AuditChainCheckpoint → List Link
  | _, [] => []
  | lower, row :: rest =>
    ⟨row.throughSequenceId, row.eventCount, hashesBetween events tenantId lower row.throughSequenceId⟩ ::
      linksFrom events tenantId row.throughSequenceId rest

/-- The texts that a verification of checkpoints above a boundary hashes. -/
def hashedTexts (events : List AuditEvent) (tenantId : String) : Int → List AuditChainCheckpoint → List String
  | _, [] => []
  | lower, row :: rest =>
    digestText row.previousDigest row.throughSequenceId row.eventCount
        (hashesBetween events tenantId lower row.throughSequenceId) ::
      hashedTexts events tenantId row.throughSequenceId rest

section Links

variable {events : List AuditEvent} {tenantId : String} {lower : Int} {rows later : List AuditChainCheckpoint}
  {row : AuditChainCheckpoint} {progress : Progress}

/-- The boundary after some checkpoints. -/
def lastThrough (lower : Int) (rows : List AuditChainCheckpoint) : Int :=
  (rows.getLast?.map AuditChainCheckpoint.throughSequenceId).getD lower

theorem lastThrough_cons : lastThrough lower (row :: rows) = lastThrough row.throughSequenceId rows := by
  rw [lastThrough, List.getLast?_cons]
  cases h : rows.getLast? <;> simp [lastThrough, h]

theorem linksFrom_append : linksFrom events tenantId lower (rows ++ later) =
    linksFrom events tenantId lower rows ++ linksFrom events tenantId (lastThrough lower rows) later := by
  induction rows generalizing lower with
  | nil => rfl
  | cons row rest ih => rw [List.cons_append, linksFrom, linksFrom, List.cons_append, ih, lastThrough_cons]

theorem hashedTexts_append : hashedTexts events tenantId lower (rows ++ later) =
    hashedTexts events tenantId lower rows ++ hashedTexts events tenantId (lastThrough lower rows) later := by
  induction rows generalizing lower with
  | nil => rfl
  | cons row rest ih => rw [List.cons_append, hashedTexts, hashedTexts, List.cons_append, ih, lastThrough_cons]

/-- Checkpoints that are reproduced are a chain of digests over their links. -/
theorem Reproduced.chain (h : Reproduced platform events tenantId rows progress)
    (hevents : ∀ event ∈ events, IsHash event.eventHash)
    (hrows : ∀ row ∈ rows, row.Valid) (htexts : ∀ text ∈ hashedTexts events tenantId 0 rows, text ∈ texts) :
    Chain (linkDigest platform) (Admits texts) (linksFrom events tenantId 0 rows) progress.previousDigest := by
  induction h with
  | start => exact .nil
  | @concat rows progress row hreproduced hprevious hcount hdigest ih =>
    rw [hashedTexts_append] at htexts
    have hchain := ih (fun other hother => hrows other (List.mem_append_left _ hother))
      fun text htext => htexts text (List.mem_append_left _ htext)
    obtain ⟨-, hpositive, hprevious_hash, -⟩ := hrows row (by simp)
    have hlast : lastThrough 0 rows = progress.previousThrough := by rw [hreproduced.progress_eq, lastThrough]
    rw [hprevious] at hprevious_hash
    have hlinks : linksFrom events tenantId 0 (rows ++ [row]) = linksFrom events tenantId 0 rows ++
        [⟨row.throughSequenceId, row.eventCount,
          hashesBetween events tenantId progress.previousThrough row.throughSequenceId⟩] := by
      rw [linksFrom_append, hlast]
      rfl
    rw [hlinks, hdigest]
    refine .concat hchain
      { through := hpositive, previous := hprevious_hash, hashes := fun hash hhash => ?_, hashed := htexts _ ?_ }
    · obtain ⟨event, hevent, rfl⟩ := List.mem_map.mp hhash
      exact hevents event (mem_selected.mp hevent).1
    · rw [hlast, ← hprevious]
      exact List.mem_append_right _ List.mem_cons_self

/-- The events from one to a boundary are those of the ranges below it. -/
theorem Reproduced.hashes (h : Reproduced platform events tenantId rows progress) (hids : DistinctIds events)
    (hincreasing : (boundaries rows).Pairwise (· < ·)) :
    ((eventsThrough (events.filter (1 ≤ ·.sequenceId)) tenantId progress.previousThrough).map AuditEvent.eventHash) =
      (linksFrom events tenantId 0 rows).flatMap Link.hashes := by
  induction h with
  | start =>
    have hnone : eventsThrough (events.filter (1 ≤ ·.sequenceId)) tenantId 0 = [] := by
      rw [List.eq_nil_iff_forall_not_mem]
      intro row hrow
      obtain ⟨hmem, -, hle⟩ := mem_eventsThrough.mp hrow
      have hpositive : 1 ≤ row.sequenceId := by simpa using (List.mem_filter.mp hmem).2
      omega
    rw [Progress.start, hnone]
    rfl
  | @concat rows progress row hreproduced hprevious hcount hdigest ih =>
    have hlast : lastThrough 0 rows = progress.previousThrough := by rw [hreproduced.progress_eq, lastThrough]
    rw [boundaries, List.map_append, ← List.cons_append, ← boundaries, List.pairwise_append] at hincreasing
    obtain ⟨hbefore, -, hcross⟩ := hincreasing
    have hmem : progress.previousThrough ∈ boundaries rows := by
      rw [hreproduced.progress_eq]
      exact List.mem_of_getLast? getLast_boundaries
    have hless : progress.previousThrough < row.throughSequenceId := hcross _ hmem _ (by simp)
    have hnonneg : 0 ≤ progress.previousThrough := by
      obtain heq | hlow := List.mem_cons.mp hmem
      · exact heq.ge
      · exact ((List.pairwise_cons.mp hbefore).1 _ hlow).le
    have hrange : selected (events.filter (1 ≤ ·.sequenceId)) tenantId (progress.previousThrough + 1)
        (some row.throughSequenceId) = selected events tenantId (progress.previousThrough + 1)
        (some row.throughSequenceId) := by
      rw [selected, selected, List.filter_filter]
      congr 1
      refine List.filter_congr fun event _ => ?_
      by_cases hlow : progress.previousThrough + 1 ≤ event.sequenceId
      · have : 1 ≤ event.sequenceId := by omega
        simp [this]
      · simp [hlow]
    have hids' : DistinctIds (events.filter (1 ≤ ·.sequenceId)) := hids.sublist (List.filter_sublist.map _)
    rw [eventsThrough_split hids' hless.le, List.map_append, ih hbefore, linksFrom_append, hlast, List.flatMap_append,
      hrange]
    simp [linksFrom, hashesBetween]

/-- A prefix of reproduced checkpoints is reproduced. -/
theorem Reproduced.prefix (h : Reproduced platform events tenantId (rows ++ later) progress) :
    ∃ earlier, Reproduced platform events tenantId rows earlier := by
  induction later using List.reverseRecOn generalizing progress with
  | nil => exact ⟨progress, by simpa using h⟩
  | append_singleton later last ih =>
    rw [← List.append_assoc] at h
    generalize hall : rows ++ later ++ [last] = all at h
    cases h with
    | start => simp at hall
    | concat hrows hprevious hcount hdigest =>
      obtain ⟨hsame, -⟩ := List.append_inj' hall rfl
      exact ih (hsame ▸ hrows)

/-- The boundaries of checkpoints are those of their links. -/
theorem boundaries_links : boundaries rows = 0 :: (linksFrom events tenantId lower rows).map Link.through := by
  rw [boundaries]
  congr 1
  induction rows generalizing lower with
  | nil => rfl
  | cons row rest ih => rw [List.map_cons, linksFrom, List.map_cons, ← ih]

end Links

/-- The constraints of the tables. -/
structure Tables.Constrained (tables : Tables) : Prop where
  ids : DistinctIds tables.events
  hashes : (tables.events.map AuditEvent.eventHash).Nodup
  hashed : ∀ row ∈ tables.events, IsHash row.eventHash
  checkpoints : ∀ row ∈ tables.checkpoints, row.InRange ∧ row.Valid
  numbers : (tables.checkpoints.map fun row => (row.tenantId, row.checkpointNumber)).Nodup
  throughs : (tables.checkpoints.map fun row => (row.tenantId, row.throughSequenceId)).Nodup

/-- What a history says of an event. -/
def AuditEvent.contents (event : AuditEvent) : String × String × String × js_value.JsValue × String :=
  (event.eventType, event.aggregateType, event.aggregateId, event.metadata, event.eventHash)

/-- The events at or below the boundary of a checkpoint are those that another
table holds at or below a boundary. -/
def Unaltered (tenantId : String) (present : Tables) (row : AuditChainCheckpoint) (tables : Tables)
    (other : AuditChainCheckpoint) : Prop :=
  (eventsThrough tables.events tenantId other.throughSequenceId).map AuditEvent.contents =
    (eventsThrough present.events tenantId row.throughSequenceId).map AuditEvent.contents

/-- An event that carries the hash of an event of the history has its contents. -/
def HashesTell (tenantId : String) (present : Tables) (row : AuditChainCheckpoint) (tables : Tables)
    (other : AuditChainCheckpoint) : Prop :=
  ∀ event ∈ eventsThrough present.events tenantId row.throughSequenceId,
    ∀ found ∈ eventsThrough tables.events tenantId other.throughSequenceId,
      found.eventHash = event.eventHash → found.contents = event.contents

/-- No event of a tenant stands below the first sequence id. -/
def FromOne (tenantId : String) (tables : Tables) (other : AuditChainCheckpoint) : Prop :=
  ∀ event ∈ eventsThrough tables.events tenantId other.throughSequenceId, 1 ≤ event.sequenceId

/-- A step makes a checkpoint of a tenant. -/
def Makes (service : AuditService) (state : AuditState) (action : Action) (tenantId : String)
    (row : AuditChainCheckpoint) : Prop :=
  checkpointsOf (step service state action).tables.checkpoints tenantId =
    checkpointsOf state.tables.checkpoints tenantId ++ [row]

/-- Rows with the same keys, where a key tells the view, have the same views. -/
theorem map_eq_of_keys {α β γ : Type*} {key : α → β} {view : α → γ} {first second : List α}
    (hkeys : first.map key = second.map key)
    (h : ∀ row ∈ second, ∀ other ∈ first, key other = key row → view other = view row) :
    first.map view = second.map view := by
  induction first generalizing second with
  | nil =>
    obtain rfl : second = [] := by simpa using hkeys.symm
    rfl
  | cons row rest ih =>
    cases second with
    | nil => simp at hkeys
    | cons other others =>
      rw [List.map_cons, List.map_cons, List.cons.injEq] at hkeys
      rw [List.map_cons, List.map_cons, h other List.mem_cons_self row List.mem_cons_self hkeys.1,
        ih hkeys.2 fun later hlater early hearly =>
          h later (List.mem_cons_of_mem _ hlater) early (List.mem_cons_of_mem _ hearly)]

/-- A hash of the history stands in it once. -/
theorem Unaltered.hashesTell {tenantId : String} {present tables : Tables} {row other : AuditChainCheckpoint}
    (hhashes : (present.events.map AuditEvent.eventHash).Nodup) (h : Unaltered tenantId present row tables other) :
    HashesTell tenantId present row tables other := by
  intro event hevent found hfound hhash
  have hmem : found.contents ∈ (eventsThrough present.events tenantId row.throughSequenceId).map
      AuditEvent.contents := h ▸ List.mem_map_of_mem hfound
  obtain ⟨same, hsame, hcontents⟩ := List.mem_map.mp hmem
  have hsame_hash : same.eventHash = found.eventHash := congrArg (fun contents => contents.2.2.2.2) hcontents
  have heq : same = event := List.inj_on_of_nodup_map hhashes (mem_eventsThrough.mp hsame).1
    (mem_eventsThrough.mp hevent).1 (hsame_hash.trans hhash)
  rw [← hcontents, heq]

/-- A table that verifies up to a digest of the history holds the history up to
there, if and only if no event of it stands below the first sequence id and none
keeps the hash of an event of the history without its contents. No checkpoint of the
history may have stepped over an event. -/
theorem tamper_evident_iff (service : AuditService) {before : List Action} {action : Action} {tenantId : String}
    {row : AuditChainCheckpoint} (hmakes : Makes service (run service before) action tenantId row)
    (hseen : ∀ earlier taken rest, before ++ [action] = earlier ++ taken :: rest →
      ¬StepsOver service (run service earlier) taken tenantId)
    {tables : Tables} (htables : tables.Constrained)
    (hverified : (verifyCheckpoints service.platform service.batch tables.events tenantId
      tables.checkpoints).isValid = true)
    {lower upper : List AuditChainCheckpoint} {other : AuditChainCheckpoint}
    (hother : checkpointsOf tables.checkpoints tenantId = lower ++ other :: upper)
    (hdigest : other.digest = row.digest)
    (hinj : Set.InjOn service.platform.sha256 {text |
      text ∈ hashedTexts (run service (before ++ [action])).tables.events tenantId 0
        (checkpointsOf (run service (before ++ [action])).tables.checkpoints tenantId) ∨
      text ∈ hashedTexts tables.events tenantId 0 (checkpointsOf tables.checkpoints tenantId)}) :
    Unaltered tenantId (run service (before ++ [action])).tables row tables other ↔
      FromOne tenantId tables other ∧
        HashesTell tenantId (run service (before ++ [action])).tables row tables other := by
  have hsound := @run_sound service (before ++ [action])
  have hfolded := run_folded hseen
  have hmade : checkpointsOf (run service (before ++ [action])).tables.checkpoints tenantId =
      checkpointsOf (run service before).tables.checkpoints tenantId ++ [row] := by
    rw [show run service (before ++ [action]) = step service (run service before) action from runs.run_concat]
    exact hmakes
  generalize hstate : run service (before ++ [action]) = state at *
  generalize checkpointsOf (run service before).tables.checkpoints tenantId = earlier at *
  -- both tables are chains of digests up to the digest
  obtain ⟨progress, hreproduced⟩ := hfolded.reproduced
  obtain ⟨final, hall⟩ := (verifyCheckpoints_isValid_iff htables.ids service.paged).mp hverified
  obtain ⟨found, hfound⟩ : ∃ found, Reproduced service.platform tables.events tenantId (lower ++ [other]) found := by
    rw [hother, List.append_cons] at hall
    exact hall.prefix
  have hlast : progress = ⟨some row.digest, row.throughSequenceId, row.eventCount⟩ := by
    rw [hreproduced.progress_eq, hmade]
    simp
  have hlast' : found = ⟨some other.digest, other.throughSequenceId, other.eventCount⟩ := by
    rw [hfound.progress_eq]
    simp
  have hrows : ∀ found ∈ lower ++ [other], found.Valid := by
    intro found hmem
    have hin : found ∈ checkpointsOf tables.checkpoints tenantId := by
      rw [hother, List.append_cons]
      exact List.mem_append_left _ hmem
    rw [checkpointsOf, mem_inOrder] at hin
    exact (htables.checkpoints found (List.mem_filter.mp hin).1).2
  have hrows' : ∀ found ∈ checkpointsOf state.tables.checkpoints tenantId, found.Valid := by
    intro found hmem
    rw [checkpointsOf, mem_inOrder] at hmem
    exact (hsound.constrained found (List.mem_filter.mp hmem).1).2
  obtain ⟨texts, hinj, htexts, htexts'⟩ : ∃ texts : Set String, Set.InjOn service.platform.sha256 texts ∧
      (∀ text ∈ hashedTexts state.tables.events tenantId 0 (checkpointsOf state.tables.checkpoints tenantId),
        text ∈ texts) ∧
      ∀ text ∈ hashedTexts tables.events tenantId 0 (checkpointsOf tables.checkpoints tenantId), text ∈ texts :=
    ⟨_, hinj, fun _ => Or.inl, fun _ => Or.inr⟩
  rw [hother, List.append_cons, hashedTexts_append] at htexts'
  have hchain := hreproduced.chain (fun event hevent => hsound.hashed event (List.mem_append_left _ hevent))
    hrows' htexts
  have hchain' := hfound.chain htables.hashed hrows fun text htext => htexts' text (List.mem_append_left _ htext)
  rw [hlast] at hchain
  rw [hlast', hdigest] at hchain'
  have hlinks := hchain.injective (linkDigest_inj hinj) hchain'
  -- so the boundaries and the hashes up to the digest are the same
  have hbounds : boundaries (lower ++ [other]) = boundaries (checkpointsOf state.tables.checkpoints tenantId) := by
    rw [boundaries_links, ← hlinks, ← boundaries_links]
  have hthrough : other.throughSequenceId = row.throughSequenceId := by
    have hlasts := congrArg List.getLast? hbounds
    rw [getLast_boundaries, getLast_boundaries, hmade] at hlasts
    simpa using hlasts
  have hhashes := hreproduced.hashes hsound.ids hfolded.increasing
  have hhashes' := hfound.hashes htables.ids (hbounds ▸ hfolded.increasing)
  rw [← hlinks, ← hhashes, hlast, hlast', eventsThrough_filter, eventsThrough_filter] at hhashes'
  have hpositive : (eventsThrough state.tables.events tenantId row.throughSequenceId).filter (1 ≤ ·.sequenceId) =
      eventsThrough state.tables.events tenantId row.throughSequenceId := by
    rw [List.filter_eq_self]
    intro event hevent
    exact decide_eq_true (hsound.drawn event (List.mem_append_left _ (mem_eventsThrough.mp hevent).1)).1
  rw [hpositive] at hhashes'
  constructor
  · intro h
    refine ⟨?_, h.hashesTell hsound.hashes.1⟩
    have hlengths := congrArg List.length hhashes'
    have hall := congrArg List.length h
    simp only [List.length_map] at hlengths hall
    rw [← hall] at hlengths
    exact fun event hevent => by simpa using List.length_filter_eq_length_iff.mp hlengths event hevent
  · rintro ⟨hone, htell⟩
    have hself : (eventsThrough tables.events tenantId other.throughSequenceId).filter (1 ≤ ·.sequenceId) =
        eventsThrough tables.events tenantId other.throughSequenceId := by
      rw [List.filter_eq_self]
      exact fun event hevent => decide_eq_true (hone event hevent)
    rw [hself] at hhashes'
    exact map_eq_of_keys hhashes' fun event hevent found hfound hhash => htell event hevent found hfound hhash

def sampleHistory : List Action :=
  sampleWrite 1 "alpha" ++ [.commit 1, .startCheckpoint 2 "tenant-1" (.string "ops"), .lockCheckpoint 2]

def sampleCheckpoint : Action := .commitCheckpoint 2

/-- The same events under the same hashes with other metadata. -/
def edited (tables : Tables) : Tables :=
  { tables with
    events := tables.events.map fun event => { event with metadata := .object [("units", .string "900")] } }

theorem edited_checkpoints (tables : Tables) : (edited tables).checkpoints = tables.checkpoints := rfl

/-- The first checkpoint of a tenant. -/
theorem makes_first {service : AuditService} {before : List Action} {action : Action} {tenantId : String}
    (hnone : (checkpointsOf (run service before).tables.checkpoints tenantId).length = 0)
    (hone : (checkpointsOf (run service (before ++ [action])).tables.checkpoints tenantId).length = 1) :
    ∃ row, Makes service (run service before) action tenantId row ∧
      checkpointsOf (run service (before ++ [action])).tables.checkpoints tenantId = [row] := by
  obtain ⟨row, hrow⟩ := List.length_eq_one_iff.mp hone
  refine ⟨row, ?_, hrow⟩
  rw [Makes, List.length_eq_zero_iff.mp hnone, List.nil_append, ← hrow,
    show step service (run service before) action = run service (before ++ [action]) from runs.run_concat.symm]

/-- The units that the metadata of an event name. -/
def unitsText (event : AuditEvent) : String :=
  match event.metadata with
  | .object [(_, .string text)] => text
  | _ => ""

/-- A checkpoint that has seen every event steps over none. -/
theorem not_stepsOver_of_seen {service : AuditService} {state : AuditState} {action : Action} {tenantId : String}
    (hsound : state.Sound) (h : ∀ transaction ∈ state.transactions,
      transaction.snapshot.events.length = state.tables.events.length) :
    ¬StepsOver service state action tenantId := by
  rintro ⟨transaction, call, tables, -, hfound, -, -, -, -, event, hevent, -, -, hmissed, -⟩
  have hmem := find_mem hfound
  have hsame := (hsound.seen transaction hmem).1.eq_of_length (h transaction hmem)
  exact hmissed (hsame ▸ hevent)

def Action.commitsCheckpoint : Action → Bool
  | .commitCheckpoint _ => true
  | _ => false

theorem sample_seen (hseen : ∀ transaction ∈ (run sampleService sampleHistory).transactions,
      transaction.snapshot.events.length = (run sampleService sampleHistory).tables.events.length)
    {earlier rest : List Action} {taken : Action}
    (heq : sampleHistory ++ [sampleCheckpoint] = earlier ++ taken :: rest) :
    ¬StepsOver sampleService (run sampleService earlier) taken "tenant-1" := by
  obtain ⟨rfl, rfl⟩ | ⟨rest, hrest⟩ := runs.split_concat heq
  · exact not_stepsOver_of_seen (run_sound sampleHistory) hseen
  · rintro ⟨transaction, call, tables, rfl, -⟩
    have hnone : sampleHistory.all (fun action => !action.commitsCheckpoint) = true := by decide
    have hmem : Action.commitCheckpoint transaction.id ∈ sampleHistory := by simp [hrest]
    exact absurd (List.all_eq_true.mp hnone _ hmem) (by simp [Action.commitsCheckpoint])

/-- What the sample history and its edited table meet. -/
theorem sample_facts {present : Tables}
    (hpresent : present = (run sampleService (sampleHistory ++ [sampleCheckpoint])).tables) :
    (edited present).Constrained ∧
      (verifyCheckpoints samplePlatform 1000 (edited present).events "tenant-1" present.checkpoints).isValid = true ∧
      ∃ row, Makes sampleService (run sampleService sampleHistory) sampleCheckpoint "tenant-1" row ∧
        checkpointsOf present.checkpoints "tenant-1" = [row] ∧
        ¬Unaltered "tenant-1" present row (edited present) row ∧
        (checkpointsOf (run sampleService sampleHistory).tables.checkpoints "tenant-1").length = 0 ∧
        (∀ transaction ∈ (run sampleService sampleHistory).transactions,
          transaction.snapshot.events.length = (run sampleService sampleHistory).tables.events.length) ∧
        Set.InjOn sampleHash {text |
          text ∈ hashedTexts present.events "tenant-1" 0 (checkpointsOf present.checkpoints "tenant-1") ∨
          text ∈ hashedTexts (edited present).events "tenant-1" 0 (checkpointsOf present.checkpoints "tenant-1")} := by
  have hfacts : (((edited (run sampleService (sampleHistory ++ [sampleCheckpoint])).tables).events.map
        AuditEvent.sequenceId).Nodup ∧
      ((edited (run sampleService (sampleHistory ++ [sampleCheckpoint])).tables).events.map
        AuditEvent.eventHash).Nodup ∧
      (∀ row ∈ (edited (run sampleService (sampleHistory ++ [sampleCheckpoint])).tables).events,
        IsHash row.eventHash) ∧
      (∀ row ∈ (run sampleService (sampleHistory ++ [sampleCheckpoint])).tables.checkpoints,
        row.InRange ∧ row.Valid) ∧
      ((run sampleService (sampleHistory ++ [sampleCheckpoint])).tables.checkpoints.map fun row =>
        (row.tenantId, row.checkpointNumber)).Nodup ∧
      ((run sampleService (sampleHistory ++ [sampleCheckpoint])).tables.checkpoints.map fun row =>
        (row.tenantId, row.throughSequenceId)).Nodup) ∧
      (verifyCheckpoints samplePlatform 1000
        (edited (run sampleService (sampleHistory ++ [sampleCheckpoint])).tables).events "tenant-1"
        (run sampleService (sampleHistory ++ [sampleCheckpoint])).tables.checkpoints).isValid = true ∧
      (checkpointsOf (run sampleService sampleHistory).tables.checkpoints "tenant-1").length = 0 ∧
      (checkpointsOf (run sampleService (sampleHistory ++ [sampleCheckpoint])).tables.checkpoints "tenant-1").length =
        1 ∧
      (∀ row ∈ checkpointsOf (run sampleService (sampleHistory ++ [sampleCheckpoint])).tables.checkpoints "tenant-1",
        (eventsThrough (edited (run sampleService (sampleHistory ++ [sampleCheckpoint])).tables).events "tenant-1"
          row.throughSequenceId).map unitsText ≠
          (eventsThrough (run sampleService (sampleHistory ++ [sampleCheckpoint])).tables.events "tenant-1"
            row.throughSequenceId).map unitsText) ∧
      (∀ transaction ∈ (run sampleService sampleHistory).transactions,
        transaction.snapshot.events.length = (run sampleService sampleHistory).tables.events.length) ∧
      ∀ first ∈ hashedTexts (run sampleService (sampleHistory ++ [sampleCheckpoint])).tables.events "tenant-1" 0
          (checkpointsOf (run sampleService (sampleHistory ++ [sampleCheckpoint])).tables.checkpoints "tenant-1") ++
        hashedTexts (edited (run sampleService (sampleHistory ++ [sampleCheckpoint])).tables).events "tenant-1" 0
          (checkpointsOf (run sampleService (sampleHistory ++ [sampleCheckpoint])).tables.checkpoints "tenant-1"),
      ∀ second ∈ hashedTexts (run sampleService (sampleHistory ++ [sampleCheckpoint])).tables.events "tenant-1" 0
          (checkpointsOf (run sampleService (sampleHistory ++ [sampleCheckpoint])).tables.checkpoints "tenant-1") ++
        hashedTexts (edited (run sampleService (sampleHistory ++ [sampleCheckpoint])).tables).events "tenant-1" 0
          (checkpointsOf (run sampleService (sampleHistory ++ [sampleCheckpoint])).tables.checkpoints "tenant-1"),
        sampleHash first = sampleHash second → first = second := by
    decide +kernel
  obtain ⟨hconstrained, hverified, hnone, hone, hunits, hseen, hinj⟩ := hfacts
  obtain ⟨row, hmakes, hrow⟩ := makes_first hnone hone
  rw [← hpresent] at hconstrained hverified hrow hunits hinj
  obtain ⟨hids, hhashes, hhashed, hrows, hnumbers, hthroughs⟩ := hconstrained
  refine ⟨⟨hids, hhashes, hhashed, hrows, hnumbers, hthroughs⟩, hverified, row, hmakes, hrow, fun h => ?_, hnone, hseen,
    fun first hfirst second hsecond heq =>
      hinj first (List.mem_append.mpr hfirst) second (List.mem_append.mpr hsecond) heq⟩
  have hmem : row ∈ checkpointsOf present.checkpoints "tenant-1" := by
    rw [hrow]
    exact List.mem_singleton_self row
  have hmaps := congrArg (List.map fun contents : String × String × String × js_value.JsValue × String =>
    unitsText ⟨0, "", "", "", "", contents.2.2.2.1, none, ""⟩) h
  rw [List.map_map, List.map_map] at hmaps
  exact hunits row hmem hmaps

theorem tamper_evident_iff_sample :
    ∃ present row, present = (run sampleService (sampleHistory ++ [sampleCheckpoint])).tables ∧
      ¬(FromOne "tenant-1" (edited present) row ∧ HashesTell "tenant-1" present row (edited present) row) := by
  generalize hpresent : (run sampleService (sampleHistory ++ [sampleCheckpoint])).tables = present
  obtain ⟨hconstrained, hverified, row, hmakes, hrow, hne, hnone, hseen, hinj⟩ := sample_facts hpresent.symm
  have hiff := @tamper_evident_iff sampleService sampleHistory sampleCheckpoint "tenant-1" row hmakes
    (fun _ _ _ => sample_seen hseen) (edited present) hconstrained hverified [] [] row
    (by rw [edited_checkpoints]; exact hrow) rfl (by rw [hpresent]; exact hinj)
  rw [hpresent] at hiff
  exact ⟨present, row, rfl, fun h => hne (hiff.mpr h)⟩

/-- An edited event passes the verification: nothing recomputes its hash. -/
theorem edited_event_verifies :
    ∃ present, present = (run sampleService (sampleHistory ++ [sampleCheckpoint])).tables ∧
      (edited present).Constrained ∧
      ∃ row, Makes sampleService (run sampleService sampleHistory) sampleCheckpoint "tenant-1" row ∧
        ¬((verifyCheckpoints samplePlatform 1000 (edited present).events "tenant-1"
            (edited present).checkpoints).isValid = true →
          ∀ other ∈ checkpointsOf (edited present).checkpoints "tenant-1", other.digest = row.digest →
            Unaltered "tenant-1" present row (edited present) other) := by
  refine ⟨_, rfl, ?_⟩
  generalize hpresent : (run sampleService (sampleHistory ++ [sampleCheckpoint])).tables = present
  obtain ⟨hconstrained, hverified, row, hmakes, hrow, hne, -⟩ := sample_facts hpresent.symm
  have hmem : row ∈ checkpointsOf (edited present).checkpoints "tenant-1" := by
    rw [edited_checkpoints, hrow]
    exact List.mem_singleton_self row
  exact ⟨hconstrained, row, hmakes, fun h => hne (h hverified row hmem rfl)⟩

end rwa.audit
