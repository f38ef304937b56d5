import LinkCourier.Proofs.Download
import LinkCourier.Proofs.Framing.RoundTrip
import LinkCourier.Proofs.Relay.Exchange
import LinkCourier.Proofs.Relay.Turns

/-!
A link from the client that submits it to the handler that is given it, and the response on its
way back.
-/

namespace LinkCourier

open Framing (Cut body reached encodeCommand)

/-- The handler with a record of the commands that it has been given. -/
def Handler.recorded {σ : Type} (h : Handler σ) : Handler (σ × List Command) where
  handle st c := ((h.handle st.1 c).1, (h.handle st.1 c).2, st.2 ++ [c])

namespace Connection

variable {s : Settings} {p : Peer} {c d : Command} {reads : List Bytes}

/-- A command that has been written is heard, whatever the reads. -/
lemma heard_written (hlim : s.maxLineBytes.toNat + 1 < UInt64.size)
    (hcut : Cut (encodeCommand d) reads) (hp : p.arrivals = reads.map .bytes)
    (hfits : ∀ l ∈ reached d.lines, l.byteLength ≤ s.maxLineBytes.toNat)
    (hc : (body d.lines).map Line.trimEnd = c.lines) : heard s p = some c := by
  rw [heard_eq_some_iff, hp]
  refine hcut.carries hlim ?_
  rw [Framing.allLines_encodeCommand, Framing.verdict_written_of_le hfits, hc]

end Connection

/-! ### The two lines of a download on the wire -/

namespace Command

variable {link : Text} {l : Line}

lemma linkText_eq (link : Text) : linkText link = "do ".toList ++ link := rfl

/-- The bytes of a download. -/
def downloadBytes (link : Text) : Bytes :=
  Text.encode ("modprobe http\r\ndo ".toList ++ link ++ "\r\n".toList)

lemma encode_download (hl : l.text = linkText link) :
    encodeCommand ⟨[preambleLine, l], by simp⟩ = downloadBytes link := by
  have hend : Framing.terminator = Text.encode "\r\n".toList := by decide
  have hstart : "modprobe http\r\ndo ".toList =
      preambleLine.text ++ "\r\n".toList ++ "do ".toList := by decide
  simp only [downloadBytes, encodeCommand, Framing.encodeLine, List.flatMap_cons,
    List.flatMap_nil, hl, linkText_eq, hend, hstart, Text.encode_append, List.append_assoc,
    List.append_nil]

/-- Neither of the lines closes the sequence. -/
lemma body_download (hl : l.text = linkText link) :
    body [preambleLine, l] = [preambleLine, l] := by
  refine Framing.body_eq_self_iff.2 fun m hm => ?_
  rcases List.mem_cons.1 hm with rfl | hm
  · decide
  · rw [List.mem_singleton.1 hm, Line.isBlank, hl]
    rfl

lemma trimEnd_download (hl : l.text = linkText link) (hlink : Text.trim link ≠ []) :
    l.trimEnd.text = linkText (Text.trimEnd link) := by
  rw [ne_eq, Text.trim_eq_nil_iff] at hlink
  rw [Line.text_trimEnd, hl, linkText_eq, Text.trimEnd_append, if_neg hlink, linkText_eq]

lemma byteLength_download (hl : l.text = linkText link) :
    l.byteLength = 3 + Text.byteLength link := by
  rw [Line.byteLength, hl, linkText_eq, Text.byteLength_append]
  rfl

end Command

/-- The handler is given the download of a link that fits into the limit. -/
lemma Connection.heard_download {s : Settings} {p : Peer} {link : Text} {reads : List Bytes}
    (hlim : s.maxLineBytes.toNat + 1 < UInt64.size) (hlink : ¬ Command.Refused link)
    (hcut : Cut (Command.downloadBytes link) reads)
    (hp : p.arrivals = reads.map .bytes) (h13 : 13 ≤ s.maxLineBytes.toNat)
    (h3 : 3 + Text.byteLength link ≤ s.maxLineBytes.toNat) :
    ∃ c : Command, heard s p = some c ∧
      c.lines.map (·.text) = ["modprobe http".toList, "do ".toList ++ Text.trimEnd link] ∧
      c.link? = some (Text.trim link) := by
  obtain ⟨l, hl, -⟩ := Command.download_of_not_refused hlink
  have hne : Text.trim link ≠ [] := fun h => hlink (.inl h)
  have hbody := Command.body_download hl
  have htext := Command.trimEnd_download hl hne
  have hpreamble : Command.preambleLine.trimEnd = Command.preambleLine := by decide
  refine ⟨⟨[Command.preambleLine, l.trimEnd], by simp⟩, ?_, ?_, ?_⟩
  · rw [← Command.encode_download hl] at hcut
    refine heard_written hlim hcut hp (fun m hm => ?_) ?_
    · rw [Framing.reached_of_body_eq hbody] at hm
      rcases List.mem_cons.1 hm with rfl | hm
      · exact h13
      · rwa [List.mem_singleton.1 hm, Command.byteLength_download hl]
    · rw [hbody, List.map_cons, List.map_singleton, hpreamble]
  · simp only [List.map_cons, List.map_nil, htext, Command.linkText_eq]
    rfl
  · have htrim : Text.trim (Text.trimEnd link) = Text.trim link := Text.trim_trimEnd link
    rw [Command.link?_of_lines rfl htext (htrim ▸ hne), htrim]

/-! ### What a client makes of a link -/

namespace Client

variable {client : Client} {link : Text}

/-- A refusal takes no connection. -/
lemma submit_of_refused (client : Client) (hlink : Command.Refused link) (polls : List Poll) :
    ∃ f, client.submit link polls = ⟨some (.error (.invalidCommand f)), none⟩ := by
  obtain ⟨f, hd⟩ := Command.download_of_refused hlink
  exact ⟨f, by rw [submit, hd]⟩

/-- Any other link is sent as its download. -/
lemma submit_of_not_refused (client : Client) (hlink : ¬ Command.Refused link) :
    ∃ command, encodeCommand command = Command.downloadBytes link ∧
      ∀ polls, client.submit link polls = client.send command {} polls := by
  obtain ⟨l, hl, hd⟩ := Command.download_of_not_refused hlink
  exact ⟨_, Command.encode_download hl, fun polls => by rw [submit, hd]⟩

/-- What is not refused at once is not refused later. -/
lemma submit_ne_invalidCommand (hlink : ¬ Command.Refused link) (polls : List Poll)
    (f : Command.Fault) :
    (client.submit link polls).result ≠ some (.error (.invalidCommand f)) := by
  obtain ⟨command, -, hsubmit⟩ := submit_of_not_refused client hlink
  rw [hsubmit]
  exact send_ne_invalidCommand (by simp [Allowed]) polls f

lemma submit_of_undisturbed (client : Client) (hlink : ¬ Command.Refused link) {w : Bytes}
    {polls : List Poll} (h : Undisturbed w polls) :
    client.submit link polls =
      ⟨some (client.delivered w), some (Command.downloadBytes link)⟩ := by
  obtain ⟨command, hbytes, hsubmit⟩ := submit_of_not_refused client hlink
  rw [hsubmit, ← hbytes]
  exact send_of_undisturbed client _ h

end Client

/-! ### There and back -/

/-- One exchange over a connection that nothing disturbs: the peer brings what the client has
sent, in some reads, and the client is brought what has been answered, in others. -/
structure Relayed {σ : Type} (client : Client) (h : Handler σ) (s : Settings) (link : Text) (st : σ)
    (polls : List Client.Poll) (p : Peer) : Prop where
  request : ∃ reads, Cut ((client.submit link polls).sent.getD []) reads ∧
    p.arrivals = reads.map .bytes
  response : Client.Undisturbed ((Connection.serve h s p st).response.getD []) polls

/-- **Submitting a link**: a link that is blank or broken is refused without a connection. Of
any other one, the bytes on the wire are those of its download; if they fit into the limit of
the server, its handler is given the link once, trimmed, and the client has its response, unless
that is over the limit of the client. -/
theorem submit_relayed {σ : Type} (client : Client) (h : Handler σ) (s : Settings) (link : Text)
    (hlim : s.maxLineBytes.toNat + 1 < UInt64.size) :
    (∀ polls,
      ((∃ f, (client.submit link polls).result = some (.error (.invalidCommand f))) ↔
        Command.Refused link) ∧
      (Command.Refused link → (client.submit link polls).sent = none)) ∧
    ∀ polls p st, ¬ Command.Refused link → Relayed client h s link st polls p →
      (client.submit link polls).sent = some (Command.downloadBytes link) ∧
      (13 ≤ s.maxLineBytes.toNat → 3 + Text.byteLength link ≤ s.maxLineBytes.toNat →
        ∃ c : Command,
          c.lines.map (·.text) = ["modprobe http".toList, "do ".toList ++ Text.trimEnd link] ∧
          c.link? = some (Text.trim link) ∧
          (Connection.serve h s p st).entries.count .dispatched = 1 ∧
          (Connection.serve h.recorded s p (st, [])).state = ((h.handle st c).2, [c]) ∧
          (client.submit link polls).result = some (match (h.handle st c).1 with
            | .ok w => if w.length ≤ client.limit.toNat then .ok w
              else .error (.responseTooLarge client.limit)
            | .error _ => .ok [])) := by
  refine ⟨fun polls => ⟨⟨?_, fun hlink => ?_⟩, fun hlink => ?_⟩, fun polls p st hlink hx => ?_⟩
  · rintro ⟨f, hf⟩
    by_contra hlink
    exact Client.submit_ne_invalidCommand hlink polls f hf
  · obtain ⟨f, hf⟩ := Client.submit_of_refused client hlink polls
    exact ⟨f, by rw [hf]⟩
  · obtain ⟨f, hf⟩ := Client.submit_of_refused client hlink polls
    rw [hf]
  · have hsubmit := Client.submit_of_undisturbed client hlink hx.response
    refine ⟨by rw [hsubmit], fun h13 h3 => ?_⟩
    obtain ⟨reads, hcut, hp⟩ := hx.request
    rw [hsubmit, Option.getD_some] at hcut
    obtain ⟨c, hheard, hlines, hc⟩ := Connection.heard_download hlim hlink hcut hp h13 h3
    obtain ⟨hresponse, -, hcount⟩ := Connection.serve_of_heard_eq_some h st hheard
    obtain ⟨-, hstate, -⟩ := Connection.serve_of_heard_eq_some h.recorded (st, []) hheard
    refine ⟨c, hlines, hc, hcount, hstate, ?_⟩
    rw [hsubmit, hresponse]
    rcases (h.handle st c).1 with f | w
    · simp [Client.delivered, Except.toOption]
    · rfl

/-- A link with a blank at its end, cut between a carriage return and its line feed. -/
theorem submit_relayed_padded :
    let link := "http://a/b ".toList
    let wire := Command.downloadBytes link
    let client := Client.ofEndpoint default
    let h : Handler Unit := .stateless fun c => .ok (Handler.echoLink c)
    let s : Settings := {}
    let p : Peer := { arrivals := [.bytes (wire.take 14), .bytes (wire.drop 14)] }
    let polls : List Client.Poll := [{ events := [.connected] },
      { events := [.bytes (Text.encode "http:".toList), .bytes (Text.encode "//a/b".toList)] },
      { events := [.closed] }]
    s.maxLineBytes.toNat + 1 < UInt64.size ∧ ¬ Command.Refused link ∧
      Relayed client h s link () polls p ∧ 13 ≤ s.maxLineBytes.toNat ∧
      3 + Text.byteLength link ≤ s.maxLineBytes.toNat ∧
      (client.submit link polls).sent = some wire ∧
      (client.submit link polls).result = some (.ok (Text.encode "http://a/b".toList)) := by
  intro link wire client h s p polls
  have hlim : s.maxLineBytes.toNat + 1 < UInt64.size := by decide
  have hlink : ¬ Command.Refused link := by decide
  have h13 : 13 ≤ s.maxLineBytes.toNat := by decide
  have h3 : 3 + Text.byteLength link ≤ s.maxLineBytes.toNat := by decide
  have hcut : Cut wire [wire.take 14, wire.drop 14] := ⟨by decide, by decide⟩
  have hecho : ∀ c : Command, c.link? = some (Text.trim link) →
      h.handle () c = (.ok (Text.encode "http://a/b".toList), ()) := by
    intro c hc
    have hw : Handler.echoLink c = Text.encode "http://a/b".toList := by
      rw [Handler.echoLink, hc]
      decide
    rw [← hw]
    rfl
  obtain ⟨c, hheard, -, hc⟩ := Connection.heard_download (p := p) hlim hlink hcut rfl h13 h3
  have hresponse : (Connection.serve h s p ()).response =
      some (Text.encode "http://a/b".toList) := by
    rw [(Connection.serve_of_heard_eq_some h () hheard).1, hecho c hc]
    rfl
  have hx : Relayed client h s link () polls p := by
    refine ⟨⟨[wire.take 14, wire.drop 14], hcut, rfl⟩, by decide, by decide,
      [Text.encode "http:".toList, Text.encode "//a/b".toList], ?_, rfl⟩
    rw [hresponse]
    exact ⟨by decide, by decide⟩
  obtain ⟨hsent, hdispatched⟩ := (submit_relayed client h s link hlim).2 polls p () hlink hx
  obtain ⟨d, -, hd, -, -, hresult⟩ := hdispatched h13 h3
  refine ⟨hlim, hlink, hx, h13, h3, hsent, ?_⟩
  rw [hresult, hecho d hd]
  rfl

end LinkCourier
