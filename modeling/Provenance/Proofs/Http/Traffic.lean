import Mathlib.Tactic.ByContra
import Provenance.Proofs.Http.Response

namespace Provenance.Http

/-- Where a call stands that has not returned. -/
inductive Call where
  | looking
  | sleeping (till : Int) (seen : Quota)
  | asking
  deriving DecidableEq, Repr

/-- A call that got past the quota. -/
structure Passage where
  time : Int
  /-- The quota reported last by then, if any was. -/
  reported : Option Quota
  /-- The quota that was slept on, if the call slept. -/
  waited : Option Quota
  /-- Whether its request was sent; a call may be cancelled just then. -/
  sent : Bool
  deriving DecidableEq, Repr

/-- The quota reported last was not exhausted, or it was replenished. -/
def Passage.Timely (r : Passage) : Prop :=
  ∀ q, r.reported = some q → q.isExhausted = true → q.resetAt ≤ r.time

/-- A client, the time, the calls in flight, and what is on record of the past. -/
structure Traffic where
  client : Client
  now : Int
  calls : List Call := []
  /-- The quota reported last. Other than the client, the record never forgets it. -/
  reported : Option Quota := none
  passages : List Passage := []
  deriving DecidableEq, Repr

namespace Traffic

/-- A call gets past the quota, and sends its request or ends. -/
def proceed (t : Traffic) (i : Nat) (waited : Option Quota) (sent : Bool) : Traffic :=
  { t with
    calls := if sent then t.calls.set i .asking else t.calls.eraseIdx i
    passages := ⟨t.now, t.reported, waited, sent⟩ :: t.passages }

def forget (t : Traffic) : Traffic := { t with client := t.client.forgetQuota }

def reply (t : Traffic) (i : Nat) (url : String) (status : Nat) (headers : Headers)
    (body : Option ByteArray) : Traffic :=
  { t with
    client := (t.client.receive t.now url status headers body).2
    calls := t.calls.eraseIdx i
    reported := (recorded? t.now status headers).or t.reported }

/-- What can happen next if at most `lanes` calls are in flight at a time. -/
inductive Next (lanes : Nat) (t : Traffic) : Traffic → Prop where
  | pass (secs : Nat) : ClockInRange (t.now + secs) → Next lanes t { t with now := t.now + secs }
  | begin : t.calls.length < lanes → Next lanes t { t with calls := t.calls ++ [.looking] }
  | go (i sent) : t.calls[i]? = some .looking → t.client.wait? t.now = none →
      (sent = true → t.client.canAsk = true) → Next lanes t (t.proceed i none sent)
  | due (i sent) : t.calls[i]? = some .looking → t.client.wait? t.now = some 0 →
      (sent = true → t.client.canAsk = true) → Next lanes t (t.forget.proceed i none sent)
  | sleep (i secs seen) : t.calls[i]? = some .looking → t.client.wait? t.now = some secs →
      secs ≠ 0 → t.client.quota = some seen →
      Next lanes t { t with calls := t.calls.set i (.sleeping (t.now + secs) seen) }
  | wake (i till seen sent) : t.calls[i]? = some (.sleeping till seen) → till ≤ t.now →
      (sent = true → t.client.canAsk = true) → Next lanes t (t.forget.proceed i (some seen) sent)
  | reply (i url status headers body) : t.calls[i]? = some .asking → headers.InRange t.now →
      Next lanes t (t.reply i url status headers body)
  /-- A call is cancelled, or its connection fails. -/
  | drop (i) : Next lanes t { t with calls := t.calls.eraseIdx i }

/-- The traffic of a client from its making. -/
inductive Reaches (lanes : Nat) : Traffic → Prop where
  | start (client : Client) (now : Int) : client.quota = none → ClockInRange now →
      Reaches lanes { client, now }
  | next {t t'} : Reaches lanes t → Next lanes t t' → Reaches lanes t'

variable {lanes : Nat} {t t' : Traffic}

private theorem reply_of_recorded {status : Nat} {headers : Headers} {q : Quota}
    (recorded : recorded? t.now status headers = some q) (i : Nat) (url : String)
    (body : Option ByteArray) : t.reply i url status headers body = { t with
      client := { t.client with quota := some q }
      calls := t.calls.eraseIdx i
      reported := some q } := by
  rw [reply, Client.receive_client, recorded, Option.some_or, Option.some_or]

/-- What holds however calls interleave. -/
structure Sound (lanes : Nat) (t : Traffic) : Prop where
  clock : ClockInRange t.now
  room : t.calls.length ≤ lanes
  range : ∀ q, t.client.quota = some q → q.InRange
  known : ∀ q, t.client.quota = some q → t.reported = some q
  sleepers : ∀ till seen, Call.sleeping till seen ∈ t.calls → till = seen.resetAt
  waited : ∀ r ∈ t.passages, ∀ seen, r.waited = some seen → seen.resetAt ≤ r.time

/-- A call that had slept got past too early. -/
def Missed (t : Traffic) : Prop := ∃ r ∈ t.passages, r.waited.isSome = true ∧ ¬ r.Timely

/-- No call got past too early, and none will that does so at once. -/
structure Calm (t : Traffic) : Prop where
  timely : ∀ r ∈ t.passages, r.Timely
  unknown : t.client.quota = none →
    ∀ q, t.reported = some q → q.isExhausted = true → q.resetAt ≤ t.now

private theorem sound_start {client : Client} {now : Int} (fresh : client.quota = none)
    (clock : ClockInRange now) : Sound lanes { client, now } where
  clock := clock
  room := Nat.zero_le _
  range := by simp [fresh]
  known := by simp [fresh]
  sleepers := nofun
  waited := nofun

private theorem Sound.forget (sound : t.Sound lanes) : t.forget.Sound lanes :=
  { sound with range := nofun, known := nofun }

theorem Sound.erase (sound : t.Sound lanes) (i : Nat) :
    Sound lanes { t with calls := t.calls.eraseIdx i } :=
  { sound with
    room := (List.length_eraseIdx_le _ _).trans sound.room
    sleepers := fun till seen mem => sound.sleepers till seen (List.mem_of_mem_eraseIdx mem) }

private theorem Sound.proceed (sound : t.Sound lanes) (i : Nat) {waited : Option Quota}
    (sent : Bool)
    (slept : ∀ seen, waited = some seen → seen.resetAt ≤ t.now) :
    (t.proceed i waited sent).Sound lanes := by
  have past : ∀ r ∈ (t.proceed i waited sent).passages, ∀ seen, r.waited = some seen →
      seen.resetAt ≤ r.time := by
    rintro r (_ | ⟨_, old⟩)
    · exact slept
    · exact sound.waited r old
  cases sent with
  | false => exact { sound.erase i with waited := past }
  | true =>
    refine { sound with
      room := by simpa [Traffic.proceed] using sound.room
      sleepers := fun till seen mem => ?_
      waited := past }
    rcases List.mem_or_eq_of_mem_set mem with old | new
    · exact sound.sleepers till seen old
    · cases new

theorem Sound.next (sound : t.Sound lanes) (next : Next lanes t t') : t'.Sound lanes := by
  cases next with
  | pass secs clock => exact { sound with clock }
  | begin room =>
    refine { sound with
      room := by simpa using Nat.succ_le_of_lt room
      sleepers := fun till seen mem => ?_ }
    rcases List.mem_append.1 mem with old | new
    · exact sound.sleepers till seen old
    · cases List.mem_singleton.1 new
  | go i sent => exact sound.proceed i sent nofun
  | due i sent => exact sound.forget.proceed i sent nofun
  | sleep i secs seen _ waits _ known =>
    refine { sound with room := by simpa using sound.room, sleepers := fun till q mem => ?_ }
    rcases List.mem_or_eq_of_mem_set mem with old | new
    · exact sound.sleepers till q old
    · cases new
      rw [Client.wait?_of_quota sound.clock known (sound.range _ known)] at waits
      split at waits <;> cases waits
      omega
  | wake i till seen sent sleeps due =>
    refine sound.forget.proceed i sent fun q same => ?_
    cases same
    exact sound.sleepers till seen (List.mem_of_getElem? sleeps) ▸ due
  | reply i url status headers body _ range =>
    refine { sound.erase i with range := fun q known => ?_, known := fun q known => ?_ }
    · rw [Traffic.reply, Client.receive_client, Option.or_eq_some_iff] at known
      rcases known with new | ⟨-, old⟩
      · exact recorded?_inRange sound.clock range new
      · exact sound.range q old
    · rw [Traffic.reply, Client.receive_client, Option.or_eq_some_iff] at known
      rw [Traffic.reply, Option.or_eq_some_iff]
      exact known.imp_right fun old => ⟨old.1, sound.known q old.2⟩
  | drop i => exact sound.erase i

private theorem passages_next (next : Next lanes t t') : t.passages ⊆ t'.passages := by
  cases next with
  | go => exact List.subset_cons_self _ _
  | due => exact List.subset_cons_self _ _
  | wake => exact List.subset_cons_self _ _
  | _ => exact fun _ mem => mem

theorem Missed.next (missed : t.Missed) (next : Next lanes t t') : t'.Missed := by
  obtain ⟨r, mem, early⟩ := missed
  exact ⟨r, passages_next next mem, early⟩

/-- A call that gets past in time leaves everything calm. -/
theorem Calm.proceed (calm : ∀ r ∈ t.passages, r.Timely) (i : Nat) (waited : Option Quota)
    (sent : Bool) (due : ∀ q, t.reported = some q → q.isExhausted = true → q.resetAt ≤ t.now) :
    (t.proceed i waited sent).Calm := by
  refine ⟨?_, fun _ => due⟩
  rintro r (_ | ⟨_, old⟩)
  · exact due
  · exact calm r old

/-- Only a call that wakes can end the calm, and it is then the first to get past too early. -/
theorem Calm.next (calm : t.Calm) (sound : t.Sound lanes) (next : Next lanes t t') :
    t'.Calm ∨ t'.Missed := by
  cases next with
  | pass secs clock =>
    refine .inl { calm with unknown := fun none q last exhausted => ?_ }
    exact (calm.unknown none q last exhausted).trans (by simp)
  | go i sent _ free =>
    refine .inl (Calm.proceed calm.timely i none sent fun q last exhausted => ?_)
    cases quota : t.client.quota with
    | none => exact calm.unknown quota q last exhausted
    | some seen =>
      cases (sound.known seen quota).symm.trans last
      rw [Client.wait?_of_quota sound.clock quota (sound.range q quota), if_pos exhausted] at free
      cases free
  | due i sent _ passed =>
    obtain ⟨seen, quota⟩ := Client.exists_quota_of_wait? passed
    refine .inl (Calm.proceed (t := t.forget) calm.timely i none sent fun q last exhausted => ?_)
    cases (sound.known seen quota).symm.trans last
    rw [Client.wait?_of_quota sound.clock quota (sound.range _ quota), if_pos exhausted] at passed
    have past := Option.some.inj passed
    change seen.resetAt ≤ t.now
    omega
  | wake i till seen sent =>
    by_cases timely : Passage.Timely ⟨t.now, t.reported, some seen, sent⟩
    · exact .inl (Calm.proceed (t := t.forget) calm.timely i (some seen) sent timely)
    · exact .inr ⟨_, List.mem_cons_self, rfl, timely⟩
  | reply i url status headers body =>
    refine .inl { calm with unknown := fun none => ?_ }
    rw [Traffic.reply, Client.receive_client, Option.or_eq_none_iff] at none
    rw [Traffic.reply, none.1, Option.none_or]
    exact calm.unknown none.2
  | _ => exact .inl { calm with }

/-- With one call at a time nothing is reported while it sleeps. -/
structure Heeded (t : Traffic) : Prop where
  sleepers : ∀ till seen, Call.sleeping till seen ∈ t.calls → t.reported = some seen
  slept : ∀ r ∈ t.passages, ∀ seen, r.waited = some seen → r.reported = some seen

theorem Heeded.erase (heeded : t.Heeded) (i : Nat) :
    Heeded { t with calls := t.calls.eraseIdx i } :=
  { heeded with
    sleepers := fun till seen mem => heeded.sleepers till seen (List.mem_of_mem_eraseIdx mem) }

private theorem Heeded.proceed (heeded : t.Heeded) (i : Nat) {waited : Option Quota} (sent : Bool)
    (heard : ∀ seen, waited = some seen → t.reported = some seen) :
    (t.proceed i waited sent).Heeded := by
  have past : ∀ r ∈ (t.proceed i waited sent).passages, ∀ seen, r.waited = some seen →
      r.reported = some seen := by
    rintro r (_ | ⟨_, old⟩)
    · exact heard
    · exact heeded.slept r old
  cases sent with
  | false => exact { heeded.erase i with slept := past }
  | true =>
    refine ⟨fun till seen mem => ?_, past⟩
    rcases List.mem_or_eq_of_mem_set mem with old | new
    · exact heeded.sleepers till seen old
    · cases new

theorem Heeded.next (heeded : t.Heeded) (sound : t.Sound lanes) (single : lanes ≤ 1)
    (next : Next lanes t t') : t'.Heeded := by
  have forgets : t.forget.Heeded := { heeded with }
  cases next with
  | begin =>
    refine { heeded with sleepers := fun till seen mem => ?_ }
    rcases List.mem_append.1 mem with old | new
    · exact heeded.sleepers till seen old
    · cases List.mem_singleton.1 new
  | go i sent => exact heeded.proceed i sent nofun
  | due i sent => exact forgets.proceed i sent nofun
  | sleep i secs seen _ _ _ known =>
    refine { heeded with sleepers := fun till q mem => ?_ }
    rcases List.mem_or_eq_of_mem_set mem with old | new
    · exact heeded.sleepers till q old
    · cases new
      exact sound.known _ known
  | wake i till seen sent sleeps =>
    refine forgets.proceed i sent fun q same => ?_
    cases same
    exact heeded.sleepers till seen (List.mem_of_getElem? sleeps)
  | reply i url status headers body asks =>
    -- The call that ends was the only one.
    obtain ⟨low, -⟩ := List.getElem?_eq_some_iff.1 asks
    have alone : t.calls.eraseIdx i = [] := by
      have := sound.room
      rw [← List.length_eq_zero_iff, List.length_eraseIdx_of_lt low]
      omega
    refine { heeded with sleepers := fun till seen mem => ?_ }
    rw [Traffic.reply, alone] at mem
    cases mem
  | drop i => exact heeded.erase i
  | _ => exact { heeded with }

theorem Reaches.sound (reaches : Reaches lanes t) : t.Sound lanes := by
  induction reaches with
  | start client now fresh clock => exact sound_start fresh clock
  | next _ next ih => exact ih.next next

private theorem Reaches.calm_or_missed (reaches : Reaches lanes t) : t.Calm ∨ t.Missed := by
  induction reaches with
  | start client now fresh clock => exact .inl ⟨nofun, nofun⟩
  | next reaches next ih =>
    rcases ih with calm | missed
    · exact calm.next reaches.sound next
    · exact .inr (missed.next next)

private theorem Reaches.heeded (reaches : Reaches lanes t) (single : lanes ≤ 1) : t.Heeded := by
  induction reaches with
  | start client now fresh clock => exact ⟨nofun, nofun⟩
  | next reaches next ih => exact ih.next reaches.sound single next

theorem Reaches.not_missed (reaches : Reaches lanes t) (single : lanes ≤ 1) : ¬ t.Missed := by
  rintro ⟨r, mem, slept, early⟩
  obtain ⟨seen, slept⟩ := Option.isSome_iff_exists.1 slept
  refine early fun q last _ => ?_
  cases ((reaches.heeded single).slept r mem seen slept).symm.trans last
  exact reaches.sound.waited r mem seen slept

private theorem Reaches.widen {more : Nat} (reaches : Reaches lanes t) (le : lanes ≤ more) :
    Reaches more t := by
  induction reaches with
  | start client now fresh clock => exact .start client now fresh clock
  | next _ next ih =>
    refine ih.next ?_
    cases next with
    | begin room => exact .begin (room.trans_le le)
    | pass secs clock => exact .pass secs clock
    | go i sent looks free able => exact .go i sent looks free able
    | due i sent looks passed able => exact .due i sent looks passed able
    | sleep i secs seen looks waits nonzero known =>
      exact .sleep i secs seen looks waits nonzero known
    | wake i till seen sent sleeps passed able => exact .wake i till seen sent sleeps passed able
    | reply i url status headers body asks range =>
      exact .reply i url status headers body asks range
    | drop i => exact .drop i

def exhausting (reset : Bytes) : Headers :=
  [("x-ratelimit-remaining", [48]), ("x-ratelimit-reset", reset)]

/-- Two calls are in flight. The response to the first exhausts the quota until 110, and a third call
sleeps until then. Meanwhile the response to the second moves the reset to 200. When the third call
wakes it forgets that and asks. -/
theorem exists_early : ∃ t, Reaches 2 t ∧ ∃ r ∈ t.passages, r.sent = true ∧ ¬ r.Timely := by
  have able : Client.canAsk ⟨"agent", none, none⟩ = true := by decide +kernel
  have start : Reaches 2 ⟨⟨"agent", none, none⟩, 100, [], none, []⟩ := .start _ _ rfl (by decide)
  have two := (start.next (.begin (by decide))).next (.begin (by decide))
  have both := (two.next (.go 0 true rfl rfl fun _ => able)).next (.go 1 true rfl rfl fun _ => able)
  have first := both.next (.reply 0 "" 200 (exhausting [49, 49, 48]) none rfl (by decide))
  rw [reply_of_recorded (q := ⟨0, 110⟩) (by decide)] at first
  have asleep := (first.next (.begin (by decide))).next
    (.sleep 1 10 ⟨0, 110⟩ rfl rfl (by decide) rfl)
  have second := asleep.next (.reply 0 "" 200 (exhausting [50, 48, 48]) none rfl (by decide))
  rw [reply_of_recorded (q := ⟨0, 200⟩) (by decide)] at second
  have woken := (second.next (.pass 10 (by decide))).next
    (.wake 0 110 ⟨0, 110⟩ true rfl (by decide) fun _ => able)
  refine ⟨_, woken, ⟨110, some ⟨0, 200⟩, some ⟨0, 110⟩, true⟩, .head _, rfl, fun timely => ?_⟩
  exact absurd (timely ⟨0, 200⟩ rfl rfl) (by decide)

theorem Reaches.pass_to (reaches : Reaches lanes t) {now : Int} (le : t.now ≤ now)
    (clock : ClockInRange now) : Reaches lanes { t with now } := by
  obtain ⟨secs, rfl⟩ := Int.le.dest le
  exact reaches.next (.pass secs clock)

/-- The latest call, once past the quota, asks and takes in the response. -/
theorem fetch_reaches {σ : Type} {net : Network σ} (timed : net.Timed) (url : String)
    (query : List (String × String)) {s : σ} {calls : List Call} {c : Call}
    {waited : Option Quota} (latest : t.calls = calls ++ [c]) (now : t.now = net.now s)
    (reaches : Reaches lanes (t.proceed calls.length waited t.client.canAsk)) :
    ∃ t', Reaches lanes t' ∧ t'.client = (t.client.fetch net url query s).2.1 ∧
      t'.now = net.now (t.client.fetch net url query s).2.2 ∧ t'.calls = calls := by
  unfold Client.fetch
  rw [← t.client.isSome_request? url query] at reaches
  cases built : t.client.request? url query with
  | none =>
    rw [built] at reaches
    exact ⟨_, reaches, rfl, now, by simp [proceed, latest, List.eraseIdx_append]⟩
  | some request =>
    rw [built] at reaches
    have later := reaches.pass_to (now ▸ timed.sent request s) (timed.clock _)
    have asks : t.calls.set calls.length .asking = calls ++ [.asking] := by simp [latest]
    have ended : (calls ++ [Call.asking]).eraseIdx calls.length = calls := by
      simp [List.eraseIdx_append]
    have range := timed.replies request s
    simp only [proceed, Option.isSome_some, if_true, asks] at later ⊢
    generalize net.send request s = answer at later range ⊢
    obtain ⟨_ | _ | ⟨status, headers, body⟩, s'⟩ := answer
    · exact ⟨_, later.next (.drop calls.length), rfl, rfl, ended⟩
    · exact ⟨_, later.next (.drop calls.length), rfl, rfl, ended⟩
    · exact ⟨_, later.next (.reply calls.length url status headers body (by simp)
        (range status headers body rfl)), rfl, rfl, ended⟩

/-- A call of a client, from its look at the quota on, while others may be in flight. -/
theorem get_reaches {σ : Type} {net : Network σ} (timed : net.Timed) (url : String)
    (query : List (String × String)) {s : σ} (reaches : Reaches lanes t)
    (room : t.calls.length < lanes) (now : t.now = net.now s) :
    ∃ t', Reaches lanes t' ∧ t'.client = (t.client.get net url query s).2.1 ∧
      t'.now = net.now (t.client.get net url query s).2.2 ∧ t'.calls = t.calls := by
  let begun : Traffic := { t with calls := t.calls ++ [.looking] }
  have begins : Reaches lanes begun := reaches.next (.begin room)
  have looks : begun.calls[t.calls.length]? = some .looking := by simp [begun]
  unfold Client.get
  rw [← now]
  cases waits : t.client.wait? t.now with
  | none =>
    exact fetch_reaches (t := begun) timed url query rfl now (begins.next (.go _ _ looks waits id))
  | some secs =>
    cases secs with
    | zero =>
      exact fetch_reaches (t := begun.forget) timed url query rfl now
        (begins.next (.due _ _ looks waits id))
    | succ secs =>
      obtain ⟨seen, quota⟩ := Client.exists_quota_of_wait? waits
      let till : Int := t.now + (secs + 1)
      have asleep : Reaches lanes { t with calls := t.calls ++ [.sleeping till seen] } := by
        simpa [begun] using begins.next (.sleep _ _ seen looks waits (Nat.succ_ne_zero secs) quota)
      have ages := timed.slept (secs + 1) s
      simp only
      generalize net.sleep (secs + 1) s = slept at ages ⊢
      obtain ⟨woke, s'⟩ := slept
      have later := asleep.pass_to (now ▸ ages.1) (timed.clock s')
      cases woke
      · exact ⟨_, later.next (.drop t.calls.length), rfl, rfl, by simp [List.eraseIdx_append]⟩
      · have woken := later.next (.wake t.calls.length till seen t.client.canAsk (by simp)
          (by simpa [till, now] using ages.2 rfl) id)
        exact fetch_reaches (t := forget ⟨t.client, net.now s', _, t.reported, t.passages⟩) timed
          url query rfl rfl woken

/-- If calls overlap, a request can be sent before the reset of the quota reported last, since a call
that sleeps forgets on waking what was reported meanwhile; one at a time they never are. The first
call to get past too early is always one that slept. The quota that it slept on it has waited for. A
call of a client as it runs is a call of such traffic. -/
theorem keeps_quota_iff (lanes : Nat) :
    ((∀ t, Reaches lanes t → ∀ r ∈ t.passages, r.sent = true → r.Timely) ↔ lanes ≤ 1) ∧
    ∀ t, Reaches lanes t →
      ((∀ r ∈ t.passages, r.waited.isSome = true → r.Timely) → ∀ r ∈ t.passages, r.Timely) ∧
      (∀ r ∈ t.passages, ∀ seen, r.waited = some seen → seen.resetAt ≤ r.time) ∧
      ∀ (σ : Type) (net : Network σ) url query s, net.Timed → t.calls.length < lanes →
        t.now = net.now s →
          ∃ t', Reaches lanes t' ∧ t'.client = (t.client.get net url query s).2.1 ∧
            t'.now = net.now (t.client.get net url query s).2.2 ∧ t'.calls = t.calls := by
  refine ⟨⟨fun timely => ?_, fun single t reaches r mem _ => ?_⟩,
    fun t reaches => ⟨fun slept => ?_, reaches.sound.waited,
      fun σ net url query s timed room now => get_reaches timed url query reaches room now⟩⟩
  · by_contra several
    obtain ⟨t, reaches, r, mem, sent, early⟩ := exists_early
    exact early (timely t (reaches.widen (by omega)) r mem sent)
  · exact (reaches.calm_or_missed.resolve_right (reaches.not_missed single)).timely r mem
  · refine (reaches.calm_or_missed.resolve_right ?_).timely
    rintro ⟨r, mem, waited, early⟩
    exact early (slept r mem waited)

/-- Two calls in flight are enough. -/
theorem forgets_quota_asleep :
    ¬ ∀ t, Reaches 2 t → ∀ r ∈ t.passages, r.sent = true → r.Timely := by
  obtain ⟨t, reaches, r, mem, sent, early⟩ := exists_early
  exact fun timely => early (timely t reaches r mem sent)

end Traffic

end Provenance.Http
