import LinkCourier.Proofs.Relay.Submission

/-!
What an exchange comes to, by what is seen first. Being cancelled, the end of the exchange and the
deadline may come in any order and in one poll.
-/

namespace LinkCourier.Client

variable {client : Client} {command : Command} {reply : Bytes} {before after polls : List Poll}
  {p : Poll} {r : Except Failure Bytes}

/-! ### What can be seen -/

/-- What has been seen of an exchange with a daemon that sends `reply`. A failure may lose bytes;
that the daemon has closed is seen after all of them. -/
inductive Shows (reply : Bytes) : List Event → Prop where
  | nothing : Shows reply []
  | refused (e : IoError) : Shows reply [.refused e]
  | reads {reads : List Bytes} (hreads : reads.flatten <+: reply) :
    Shows reply (.connected :: reads.map .bytes)
  | fault (e : IoError) {reads : List Bytes} (hreads : reads.flatten <+: reply) :
    Shows reply (.connected :: reads.map .bytes ++ [.fault e])
  | closed {reads : List Bytes} (hreads : reads.flatten = reply) :
    Shows reply (.connected :: reads.map .bytes ++ [.closed])

/-- What has been seen may have been seen up to any point. -/
lemma Shows.of_append {es fs : List Event} (h : Shows reply (es ++ fs)) : Shows reply es := by
  have hcut {reads : List Bytes} (hreads : reads.flatten <+: reply)
      (hes : es <+: .connected :: reads.map .bytes) : Shows reply es := by
    rcases List.prefix_cons_iff.1 hes with rfl | ⟨seen, rfl, hseen⟩
    · exact .nothing
    · obtain ⟨first, ⟨others, rfl⟩, rfl⟩ := List.prefix_map_iff.1 hseen
      rw [List.flatten_append] at hreads
      exact .reads ((List.prefix_append _ _).trans hreads)
  have hpre : es <+: es ++ fs := List.prefix_append es fs
  generalize hall : es ++ fs = all at h hpre
  cases h with
  | nothing =>
    rw [List.prefix_nil.1 hpre]
    exact .nothing
  | refused e =>
    rcases List.prefix_cons_iff.1 hpre with rfl | ⟨seen, rfl, hseen⟩
    · exact .nothing
    · rw [List.prefix_nil.1 hseen]
      exact .refused e
  | reads hreads => exact hcut hreads hpre
  | fault e hreads =>
    rcases List.prefix_concat_iff.1 hpre with rfl | hpre
    · exact .fault e hreads
    · exact hcut hreads hpre
  | closed hreads =>
    rcases List.prefix_concat_iff.1 hpre with rfl | hpre
    · exact .closed hreads
    · exact hcut (hreads ▸ List.prefix_rfl) hpre

/-- What the exchange by itself comes to, if it has come to its end. -/
inductive Ends (client : Client) : List Event → Except Failure Bytes → Prop where
  | refused (e : IoError) :
    Ends client [.refused e] (.error (.connectionFailed client.endpoint.text e))
  | tooLarge {reads : List Bytes} {rest : List Event}
    (hlong : client.limit.toNat < reads.flatten.length) :
    Ends client (.connected :: reads.map .bytes ++ rest) (.error (.responseTooLarge client.limit))
  | fault (e : IoError) {reads : List Bytes} (hfits : reads.flatten.length ≤ client.limit.toNat) :
    Ends client (.connected :: reads.map .bytes ++ [.fault e]) (.error (.io e))
  | closed {reads : List Bytes} (hfits : reads.flatten.length ≤ client.limit.toNat) :
    Ends client (.connected :: reads.map .bytes ++ [.closed]) (.ok reads.flatten)

lemma Ends.ne_nil {es : List Event} (h : Ends client es r) : es ≠ [] := by
  cases h <;> simp

/-- The exchange after some events, without anyone who gives up. -/
def progress (client : Client) (command : Command) (es : List Event) : Exchange :=
  es.foldl (client.advance command) {}

lemma progress_append (es fs : List Event) :
    client.progress command (es ++ fs) =
      fs.foldl (client.advance command) (client.progress command es) :=
  List.foldl_append

/-- The exchange after a connection and some reads. -/
lemma progress_reads (client : Client) (command : Command) (reads : List Bytes) :
    client.progress command (.connected :: reads.map .bytes) =
      if reads.flatten.length ≤ client.limit.toNat then
        ⟨.receiving reads.flatten, some (Framing.encodeCommand command)⟩
      else
        ⟨.finished (.error (.responseTooLarge client.limit)),
          some (Framing.encodeCommand command)⟩ := by
  have hnil : ([] : Bytes).length ≤ client.limit.toNat := Nat.zero_le _
  rw [progress, List.foldl_cons]
  exact foldl_advance_bytes hnil _ reads

lemma Ends.phase {es : List Event} (h : Ends client es r) (command : Command) :
    (client.progress command es).phase = .finished r := by
  cases h with
  | refused e => rfl
  | tooLarge hlong =>
    rw [progress_append, progress_reads, if_neg (Nat.not_le_of_lt hlong),
      foldl_advance_finished rfl]
  | fault e hfits =>
    rw [progress_append, progress_reads, if_pos hfits]
    rfl
  | closed hfits =>
    rw [progress_append, progress_reads, if_pos hfits]
    rfl

/-- Once the daemon is seen to have closed, nothing more is waited for. -/
lemma Shows.ends_of_closed {es : List Event} (h : Shows reply es) (client : Client)
    (hclosed : .closed ∈ es) : ∃ r, Ends client es r := by
  cases h with
  | nothing | refused e | reads hreads | fault e hreads => simp at hclosed
  | @closed reads hreads =>
    by_cases hfits : reads.flatten.length ≤ client.limit.toNat
    · exact ⟨_, .closed hfits⟩
    · exact ⟨_, .tooLarge (Nat.lt_of_not_le hfits)⟩

/-- Of what can be seen, the exchange ends with nothing else. -/
lemma Shows.ends {es : List Event} (h : Shows reply es)
    (hr : (client.progress command es).phase = .finished r) : Ends client es r := by
  obtain ⟨r', hends⟩ : ∃ r', Ends client es r' := by
    cases h with
    | nothing => cases hr
    | refused e => exact ⟨_, .refused e⟩
    | @reads reads hreads =>
      by_cases hfits : reads.flatten.length ≤ client.limit.toNat
      · rw [progress_reads, if_pos hfits] at hr
        cases hr
      · rw [← List.append_nil (Event.connected :: reads.map Event.bytes)]
        exact ⟨_, .tooLarge (Nat.lt_of_not_le hfits)⟩
    | @fault e reads hreads =>
      by_cases hfits : reads.flatten.length ≤ client.limit.toNat
      · exact ⟨_, .fault e hfits⟩
      · exact ⟨_, .tooLarge (Nat.lt_of_not_le hfits)⟩
    | closed hreads => exact (Shows.closed hreads).ends_of_closed client (by simp)
  rw [hends.phase command] at hr
  exact Phase.finished.inj hr ▸ hends

/-- Once it has ended, the exchange has ended so. -/
lemma Ends.append {es fs : List Event} (h : Ends client es r) (hs : Shows reply (es ++ fs)) :
    Ends client (es ++ fs) r := by
  let command : Command := ⟨[Command.preambleLine], by simp⟩
  have hphase : (client.progress command (es ++ fs)).phase = .finished r := by
    rw [progress_append, foldl_advance_finished (h.phase command), h.phase command]
  exact hs.ends hphase

/-- All bytes have been seen when the daemon is seen to have closed. -/
lemma Shows.flatten_eq {reads : List Bytes}
    (h : Shows reply (.connected :: reads.map .bytes ++ [.closed])) : reads.flatten = reply := by
  have hinj : Function.Injective Event.bytes := fun _ _ h => Event.bytes.inj h
  generalize hes : Event.connected :: reads.map .bytes ++ [.closed] = es at h
  cases h with
  | nothing => simp at hes
  | refused e => simp at hes
  | @reads reads' hreads =>
    have hmem : Event.closed ∈ Event.connected :: reads'.map .bytes := hes ▸ by simp
    simp at hmem
  | @fault e reads' hreads =>
    have hlast := (List.append_inj' hes rfl).2
    simp at hlast
  | @closed reads' hreads =>
    have hinit := List.tail_eq_of_cons_eq (List.append_inj' hes rfl).1
    rw [hinj.list_map hinit, hreads]

/-- An exchange succeeds with everything that the daemon sends, and when it has closed. -/
lemma Ends.ok {es : List Event} {w : Bytes} (h : Ends client es (.ok w)) (hs : Shows reply es)
    (command : Command) :
    w = reply ∧ .closed ∈ es ∧ (client.progress command es).sent =
      some (Framing.encodeCommand command) := by
  cases h with
  | closed hfits =>
    refine ⟨hs.flatten_eq, by simp, ?_⟩
    rw [progress_append, progress_reads, if_pos hfits]
    rfl

/-! ### What decides -/

def seen (polls : List Poll) : List Event := polls.flatMap (·.events)

@[simp] lemma seen_append (before after : List Poll) :
    seen (before ++ after) = seen before ++ seen after :=
  List.flatMap_append

@[simp] lemma seen_singleton (p : Poll) : seen [p] = p.events := List.flatMap_singleton _ _

/-- Nothing has been decided by some polls. -/
structure Pending (client : Client) (polls : List Poll) : Prop where
  cancelled : ∀ p ∈ polls, p.cancelled = false
  expired : ∀ p ∈ polls, p.expired = false
  running : ∀ r, ¬ Ends client (seen polls) r

/-- What is decided by a poll. The exchange may be cancelled in the poll in which it would come to
its end, and it may come to its end in the poll in which it is too late. -/
inductive Decides (client : Client) (before : List Poll) (p : Poll) :
    Except Failure Bytes → Prop where
  | cancelled (hc : p.cancelled = true) : Decides client before p (.error .cancelled)
  | ended {r : Except Failure Bytes} (hc : p.cancelled = false)
    (hr : Ends client (seen (before ++ [p])) r) : Decides client before p r
  | expired (hc : p.cancelled = false) (hr : ∀ r, ¬ Ends client (seen (before ++ [p])) r)
    (he : p.expired = true) : Decides client before p (.error (.timeout client.timeout))

lemma Shows.of_seen (h : Shows reply (seen (before ++ after))) : Shows reply (seen before) := by
  rw [seen_append] at h
  exact h.of_append

lemma pending_nil (client : Client) : Pending client [] :=
  ⟨by simp, by simp, fun _ hr => hr.ne_nil rfl⟩

lemma Pending.of_append (h : Pending client (before ++ after))
    (hs : Shows reply (seen (before ++ after))) : Pending client before where
  cancelled p hp := h.cancelled p (List.mem_append_left _ hp)
  expired p hp := h.expired p (List.mem_append_left _ hp)
  running r hr := by
    rw [seen_append] at hs
    refine h.running r ?_
    rw [seen_append]
    exact hr.append hs

/-- A poll decides nothing if nobody gives up and the exchange has not come to its end. -/
lemma not_decides_iff : (∀ r, ¬ Decides client before p r) ↔
    p.cancelled = false ∧ p.expired = false ∧ ∀ r, ¬ Ends client (seen (before ++ [p])) r := by
  constructor
  · intro hnot
    have hc : p.cancelled = false := by
      by_contra hc
      exact hnot _ (.cancelled (by simpa using hc))
    have hrunning : ∀ r, ¬ Ends client (seen (before ++ [p])) r := fun r hr => hnot r (.ended hc hr)
    have he : p.expired = false := by
      by_contra he
      exact hnot _ (.expired hc hrunning (by simpa using he))
    exact ⟨hc, he, hrunning⟩
  · rintro ⟨hc, he, hrunning⟩ r (hc' | ⟨-, hr⟩ | ⟨-, -, he'⟩)
    · simp [hc] at hc'
    · exact hrunning r hr
    · simp [he] at he'

/-- Nothing has been decided as long as no poll has decided it. -/
lemma pending_concat_iff (hs : Shows reply (seen (before ++ [p]))) :
    Pending client (before ++ [p]) ↔ Pending client before ∧ ∀ r, ¬ Decides client before p r := by
  rw [not_decides_iff]
  constructor
  · intro h
    have hp : p ∈ before ++ [p] := by simp
    exact ⟨h.of_append hs, h.cancelled p hp, h.expired p hp, h.running⟩
  · rintro ⟨h, hc, he, hrunning⟩
    refine ⟨List.forall_mem_append.2 ⟨h.cancelled, ?_⟩, List.forall_mem_append.2 ⟨h.expired, ?_⟩,
      hrunning⟩
    · simpa using hc
    · simpa using he

/-! ### One poll and all polls -/

/-- What a poll that is not cancelled makes of what has been seen before. -/
lemma poll_progress (hc : p.cancelled = false) :
    client.poll command (client.progress command (seen before)) p =
      match (client.progress command (seen (before ++ [p]))).phase with
      | .finished _ => client.progress command (seen (before ++ [p]))
      | _ =>
        if p.expired then
          { client.progress command (seen (before ++ [p])) with
            phase := .finished (.error (.timeout client.timeout)) }
        else client.progress command (seen (before ++ [p])) := by
  rw [poll, hc, seen_append, seen_singleton, progress_append]
  rfl

/-- A poll that decides finishes the exchange. -/
lemma Decides.phase (h : Decides client before p r) (hs : Shows reply (seen (before ++ [p])))
    (command : Command) :
    (client.poll command (client.progress command (seen before)) p).phase = .finished r := by
  cases h with
  | cancelled hc => rw [poll, if_pos hc]
  | ended hc hr =>
    have hphase := hr.phase command
    rw [poll_progress hc]
    split
    · exact hphase
    · rename_i hne
      exact absurd hphase (hne r)
  | expired hc hr he =>
    rw [poll_progress hc]
    split
    · rename_i r hphase
      exact absurd (hs.ends hphase) (hr r)
    · rw [if_pos he]

/-- A poll that does not decide goes on with the exchange. -/
lemma poll_of_not_decides (command : Command) (hs : Shows reply (seen (before ++ [p])))
    (hnot : ∀ r, ¬ Decides client before p r) :
    client.poll command (client.progress command (seen before)) p =
        client.progress command (seen (before ++ [p])) ∧
      ∀ r, (client.progress command (seen (before ++ [p]))).phase ≠ .finished r := by
  obtain ⟨hc, he, hrunning⟩ := not_decides_iff.1 hnot
  refine ⟨?_, fun r hr => hrunning r (hs.ends hr)⟩
  rw [poll_progress hc, he]
  split <;> rfl

/-- The poll that decides, if no poll has decided before, is what a run of polls comes to. -/
lemma Decides.send (hd : Decides client before p r)
    (hs : Shows reply (seen (before ++ p :: after))) :
    client.send command (client.progress command (seen before)) (p :: after) =
      ⟨some r, (client.poll command (client.progress command (seen before)) p).sent⟩ := by
  rw [List.append_cons] at hs
  have hphase := hd.phase hs.of_seen command
  rw [Client.send]
  simp only [hphase]

/-- Polls that decide nothing go on with the exchange. -/
lemma Pending.send (hb : Pending client before) (hs : Shows reply (seen before))
    (command : Command) (rest : List Poll) :
    client.send command {} (before ++ rest) =
      client.send command (client.progress command (seen before)) rest := by
  induction before using List.reverseRecOn generalizing rest with
  | nil => rfl
  | append_singleton before p ih =>
    obtain ⟨hb, hnot⟩ := (pending_concat_iff hs).1 hb
    obtain ⟨hpoll, hphase⟩ := poll_of_not_decides command hs hnot
    rw [List.append_assoc, List.singleton_append, ih hb hs.of_seen, Client.send, hpoll]
    split
    · rename_i r hr
      exact absurd hr (hphase r)
    · rfl

/-- **All polls**: either none of them decides anything, or one of them is the first that does. -/
theorem pending_or_decides (client : Client) (hs : Shows reply (seen polls)) :
    Pending client polls ∨ ∃ before p after r, polls = before ++ p :: after ∧
      Pending client before ∧ Decides client before p r := by
  induction polls using List.reverseRecOn with
  | nil => exact .inl (pending_nil client)
  | append_singleton polls p ih =>
    rcases ih hs.of_seen with hpending | ⟨before, q, after, r, rfl, hb, hd⟩
    · by_cases hnot : ∀ r, ¬ Decides client polls p r
      · exact .inl ((pending_concat_iff hs).2 ⟨hpending, hnot⟩)
      · obtain ⟨r, hd⟩ := not_forall_not.1 hnot
        exact .inr ⟨polls, p, [], r, rfl, hpending, hd⟩
    · exact .inr ⟨before, q, after ++ [p], r, by simp, hb, hd⟩

lemma send_of_decides (hs : Shows reply (seen (before ++ p :: after)))
    (hb : Pending client before) (hd : Decides client before p r) :
    client.send command {} (before ++ p :: after) =
      ⟨some r, (client.poll command (client.progress command (seen before)) p).sent⟩ := by
  rw [hb.send hs.of_seen]
  exact hd.send hs

lemma send_eq_none_iff (hs : Shows reply (seen polls)) :
    (client.send command {} polls).result = none ↔ Pending client polls := by
  constructor
  · intro hnone
    rcases pending_or_decides client hs with h | ⟨before, p, after, r, rfl, hb, hd⟩
    · exact h
    · rw [send_of_decides hs hb hd] at hnone
      cases hnone
  · intro h
    have hsend := h.send hs command []
    rw [List.append_nil] at hsend
    rw [hsend, send]

lemma send_eq_some_iff (hs : Shows reply (seen polls)) :
    (client.send command {} polls).result = some r ↔ ∃ before p after,
      polls = before ++ p :: after ∧ Pending client before ∧ Decides client before p r := by
  constructor
  · intro hr
    rcases pending_or_decides client hs with h | ⟨before, p, after, r', rfl, hb, hd⟩
    · rw [(send_eq_none_iff hs).2 h] at hr
      cases hr
    · rw [send_of_decides hs hb hd] at hr
      exact ⟨before, p, after, rfl, hb, Option.some.inj hr ▸ hd⟩
  · rintro ⟨before, p, after, rfl, hb, hd⟩
    rw [send_of_decides hs hb hd]

/-- It is a response that is decided on only where the daemon is seen to have closed. -/
lemma Decides.ok {w : Bytes} (hd : Decides client before p (.ok w)) (hb : Pending client before)
    (hs : Shows reply (seen (before ++ [p]))) (command : Command) :
    w = reply ∧ p.cancelled = false ∧ .closed ∈ p.events ∧
      (client.poll command (client.progress command (seen before)) p).sent =
        some (Framing.encodeCommand command) := by
  cases hd with
  | ended hc hr =>
    obtain ⟨hw, hclosed, hsent⟩ := hr.ok hs command
    refine ⟨hw, hc, ?_, ?_⟩
    · rw [seen_append, seen_singleton] at hclosed
      refine (List.mem_append.1 hclosed).resolve_left fun hbefore => ?_
      obtain ⟨r, hends⟩ := hs.of_seen.ends_of_closed client hbefore
      exact hb.running r hends
    · rw [poll_progress hc, hr.phase command]
      exact hsent

/-! ### A link -/

/-- What someone is told. -/
def Completion.told {σ : Type} (completion : Completion σ) (st : σ) : Except Failure Bytes → σ
  | .ok w => completion.finished w st
  | .error f => completion.failed f st

lemma submitWith_eq {σ : Type} (client : Client) (link : Text) (polls : List Poll)
    (completion : Completion σ) (st : σ) :
    client.submitWith link polls completion st =
      (client.submit link polls).result.toList.foldl completion.told st := by
  rw [submitWith]
  split <;> rename_i hr <;> rw [hr] <;> rfl

/-- **Whoever comes first** decides what a link comes to. A link that is blank or broken is refused,
and one that is cancelled before its first poll makes no connection. Any other one is decided by the
first poll that decides anything. It comes to a response only if nobody has given up when the daemon
is seen to have closed, and then to all that the daemon sends. What it comes to is told once. -/
theorem submit_decided (client : Client) (link : Text) :
    (∀ polls, Command.Refused link →
      ∃ f, client.submit link polls = ⟨some (.error (.invalidCommand f)), none⟩) ∧
    (∀ p rest, ¬ Command.Refused link → p.cancelled = true →
      client.submit link (p :: rest) = ⟨some (.error .cancelled), none⟩) ∧
    (∀ reply polls, ¬ Command.Refused link → Shows reply (seen polls) →
      (∀ r, (client.submit link polls).result = some r ↔ ∃ before p after,
        polls = before ++ p :: after ∧ Pending client before ∧ Decides client before p r) ∧
      ((client.submit link polls).result = none ↔ Pending client polls) ∧
      ∀ w, (client.submit link polls).result = some (.ok w) → w = reply ∧
        (client.submit link polls).sent = some (Command.downloadBytes link) ∧
        ∃ before p after, polls = before ++ p :: after ∧ Pending client before ∧
          p.cancelled = false ∧ .closed ∈ p.events) ∧
    ∀ polls {σ : Type} (completion : Completion σ) (st : σ),
      client.submitWith link polls completion st =
        (client.submit link polls).result.toList.foldl completion.told st := by
  refine ⟨fun polls hlink => submit_of_refused client hlink polls, fun p rest hlink hp => ?_,
    fun reply polls hlink hs => ?_, fun polls σ completion st =>
      submitWith_eq client link polls completion st⟩
  · obtain ⟨command, -, hsubmit⟩ := submit_of_not_refused client hlink
    simp only [hsubmit, send, poll, hp, if_true]
  · obtain ⟨command, hbytes, hsubmit⟩ := submit_of_not_refused client hlink
    rw [hsubmit, ← hbytes]
    refine ⟨fun r => send_eq_some_iff hs, send_eq_none_iff hs, fun w hw => ?_⟩
    obtain ⟨before, p, after, rfl, hb, hdecides⟩ := (send_eq_some_iff hs).1 hw
    have hseen := hs
    rw [List.append_cons] at hseen
    obtain ⟨hreply, hc, hclosed, hsent⟩ := hdecides.ok hb hseen.of_seen command
    refine ⟨hreply, ?_, before, p, after, rfl, hb, hc, hclosed⟩
    rw [send_of_decides hs hb hdecides]
    exact hsent

/-- The end of the response and the deadline come in one poll, once with the token and once
without it. -/
theorem submit_decided_race :
    let link := "http://a/b".toList
    let client := Client.ofEndpoint default
    let reply := Text.encode "ok".toList
    let first : Poll := { events := [.connected, .bytes (Text.encode "o".toList)] }
    let last : Poll := { events := [.bytes (Text.encode "k".toList), .closed], expired := true }
    let cancelled : Poll := { last with cancelled := true }
    ¬ Command.Refused link ∧ Shows reply (seen [first, last]) ∧
      Shows reply (seen [first, cancelled]) ∧ Pending client [first] ∧
      (client.submit link [first, last]).result = some (.ok reply) ∧
      (client.submit link [first, cancelled]).result = some (.error .cancelled) := by
  intro link client reply first last cancelled
  have hlink : ¬ Command.Refused link := by decide
  have hreads : [Text.encode "o".toList, Text.encode "k".toList].flatten = reply := by decide
  have hclosed : Shows reply (seen [first, last]) := .closed hreads
  have hread : [Text.encode "o".toList].flatten <+: reply := by decide
  have hfirst : Shows reply (seen [first]) := .reads hread
  obtain ⟨-, -, hdecided, -⟩ := submit_decided client link
  have hpending : Pending client [first] :=
    (hdecided reply [first] hlink hfirst).2.1.1 (by decide +kernel)
  have hfits : [Text.encode "o".toList, Text.encode "k".toList].flatten.length ≤
      client.limit.toNat := by decide
  have hends : Ends client (seen ([first] ++ [last])) (.ok reply) := hreads ▸ .closed hfits
  refine ⟨hlink, hclosed, hclosed, hpending, ?_, ?_⟩
  · exact ((hdecided reply [first, last] hlink hclosed).1 _).2
      ⟨[first], last, [], rfl, hpending, .ended rfl hends⟩
  · exact ((hdecided reply [first, cancelled] hlink hclosed).1 _).2
      ⟨[first], cancelled, [], rfl, hpending, .cancelled rfl⟩

end LinkCourier.Client
