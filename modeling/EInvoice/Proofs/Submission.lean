import EInvoice.Proofs.Envelope
import EInvoice.Proofs.RequestValues
import EInvoice.Proofs.SignedRoot
import EInvoice.Proofs.LotPayload
import EInvoice.Proofs.LotAssembly
import EInvoice.Proofs.Lifecycle
import Mathlib

/-!
# What a submission puts on the wire

A document is submitted by signing and sealing it with the client's assembler and sending the
signed text, as it was written, in the `xDE` of an `rEnviDe` request; a lot is submitted by
assembling it, encoding its text into a payload and sending the payload as the text of `xDE` in
an `rEnvioLote` request. The request sent is the one a call reports, in its outcome or in its
error (`sentRequest`), and the one the exchanger prepared for the call.

`submission_wire_fidelity` says what such a request carries when the exchanger prepares it as
the transport does (`Exchanger.preparing`), whatever the client, its assembler and signer, and
however the exchanger sends it: for a new document, the signed text the document was sealed
with, as it is, as the whole content of `xDE`, and an envelope that reads back with the dId and
an `rDE` written back as the same text, whose `DE` has the document's identifier; for a lot, the
lot's identifier as the dId and a payload that reads back as the lot's text byte for byte within
the size limit, and as a compression failure past it, on the assumption about the deflate codec
of `DeflateInverts`. The dId reads back as it was given when XML allows all of its characters;
one it does not allow is written, and read back, as U+FFFD (`readableText`).

The proof walks through the calls once (`submitDocument_sends`, `submitLot_sends`), then reads
the payload with the lemmas of the envelope, the signed root and the lot payload.
-/

namespace EInvoice.Sifen

open EInvoice.Transport EInvoice.Soap EInvoice.Text EInvoice.Invoice EInvoice.Assembly EInvoice.Xml

/-! ## What a call returns -/

/-- Whatever `x` returns satisfies `P`, before any notes. -/
def Returns (x : CallM Id α) (P : α → Prop) : Prop :=
  ∃ r new, Runs x r new ∧ ∀ a, r = .ok a → P a

namespace Returns

variable {x : CallM Id α} {P : α → Prop}

theorem of_runs {a : α} {new : List Note} (hx : Runs x (.ok a) new) (h : P a) : Returns x P :=
  ⟨_, new, hx, by rintro _ ⟨⟩; exact h⟩

theorem halt (h : Halt) : Returns (Sifen.halt h : CallM Id α) P :=
  ⟨_, [], Runs.halt h, by rintro _ ⟨⟩⟩

/-- Passing on what a computation returned, in another form. -/
theorem pass {Q : β → Prop} {k : α → β} (hx : Returns x P) (hk : ∀ a, P a → Q (k a)) :
    Returns (x >>= fun a => Pure.pure (k a)) Q := by
  obtain ⟨r, new, hrun, hP⟩ := hx
  rcases r with h | a
  · exact ⟨_, new, hrun.bind_halt, by rintro _ ⟨⟩⟩
  · exact .of_runs (hrun.bind (Runs.pure _)) (hk a (hP a rfl))

theorem after_record (r : Log.Record) (hx : Returns x P) :
    Returns (note (.record r) >>= fun _ => x) P := by
  obtain ⟨r', new, hrun, hP⟩ := hx
  exact ⟨r', [.record r] ++ new, (Runs.note _).bind hrun, hP⟩

/-- What a run from any notes returns satisfies `P`. -/
theorem run_eq (hx : Returns x P) {ns : List Note} {a : α} (h : (x.run.run ns).1 = .ok a) : P a := by
  obtain ⟨r, new, hrun, hP⟩ := hx
  rw [hrun ns] at h
  exact hP a h

end Returns

/-! ## The request a call sends -/

/-- The request a call reports: the payload of its outcome, or the one its error carries once
the request was sent. -/
def sentRequest : Except RequestError Outcome → Option String
  | .ok o => some o.request
  | .error e => e.request

/-- A call ran the request for `body` to `url` with dId `did` through `ex`: a request it reports
is the payload the exchanger prepared for them, and an outcome carries the dId. -/
def Sends (ex : Exchanger Id) (url : String) (body : Payload) (did : String)
    (r : Except RequestError Outcome) : Prop :=
  (∀ P, sentRequest r = some P → ∃ req, ex.prepare url body = .ok (some req) ∧ req.payload = P) ∧
    ∀ o, r = .ok o → o.did = did

theorem Sends.of_error {ex : Exchanger Id} {url : String} {body : Payload} {did : String}
    {err : RequestError}
    (h : ∀ P, err.request = some P → ∃ req, ex.prepare url body = .ok (some req) ∧ req.payload = P) :
    Sends ex url body did (.error err) :=
  ⟨h, fun _ h => by cases h⟩

/-- Each way a run of a request returns reports, as its request, only the one the exchanger
prepared. -/
theorem RunEnds.sends {cl : Client} {ex : Exchanger Id} {c : Call} {body : Payload}
    {reader : ResultReader α} {r : Except Halt (Except RequestError (Outcome × Option α))}
    {es : List Event} (h : RunEnds cl ex c body reader r es) :
    ∀ a, r = .ok a → Sends ex c.url body c.did (a.map (·.1)) := by
  intro a ha
  cases h with
  | unbuilt hp =>
    cases ha
    exact .of_error fun _ h => by cases h
  | noRequest hp => cases ha
  | unanswered hp hs =>
    cases ha
    exact .of_error fun P h => ⟨_, hp, Option.some.inj h⟩
  | noResponse hp hs => cases ha
  | unreadable hp hs henv =>
    cases ha
    exact .of_error fun P h => ⟨_, hp, Option.some.inj h⟩
  | parsed hp hs henv hx =>
    cases ha
    exact ⟨fun P h => ⟨_, hp, Option.some.inj h⟩, fun o h => by cases h; rfl⟩

theorem run_sends (cl : Client) (ex : Exchanger Id) (c : Call) (body : Payload)
    (reader : ResultReader α) :
    Returns (cl.run ex c body reader) fun a => Sends ex c.url body c.did (a.map (·.1)) := by
  obtain ⟨r, new, hrun, hends⟩ := Client.run_ends cl ex c body reader
  exact ⟨r, new, hrun, hends.sends⟩

/-- A call refused before anything was sent reports no request. -/
theorem fail_unsent (cl : Client) (c : Call) (stage : Stage) (cause : Report) :
    Returns (cl.fail c stage cause none none : CallM Id RequestError) fun err => err.request = none :=
  .of_runs (Runs.fail cl c stage cause none none) rfl

/-! ## The requests of the two submissions -/

/-- A document submission that reports a request had its document signed and sealed by the
client's assembler, and sent the request the exchanger prepared for the signed text; what it
returns carries that text and the dId. -/
theorem submitDocument_sends (cl : Client) (ex : Exchanger Id) (did rid : String) (d : Document) :
    Returns (cl.submitDocument ex did rid (some d)) fun a =>
      ∀ P, sentRequest (a.2.map (·.outcome)) = some P →
        ∃ asm d' sd req, cl.assembler = some asm ∧ asm.document (some d) = .ok (d', sd) ∧
          a.1 = some d' ∧
          ex.prepare (cl.url cl.paths.document) (.documentSubmission did sd.xml) = .ok (some req) ∧
          req.payload = P ∧ ∀ res, a.2 = .ok res → res.signedXml = sd.xml ∧ res.outcome.did = did := by
  unfold Client.submitDocument
  simp only [Option.isNone_some, Bool.false_eq_true, if_false]
  split
  · rename_i asm hasm
    split
    · exact .halt _
    · exact (fail_unsent _ _ _ _).pass fun err hnone P hP => by
        simp [sentRequest, Except.map, hnone] at hP
    · rename_i d' sd hdoc
      refine (run_sends _ _ _ _ _).pass fun r hsends P hP => ?_
      -- the answer shows the outcome of the run, with the signed text
      obtain ⟨req, hreq, hpay⟩ := hsends.1 P (by
        rcases r with err | ⟨o, _ | p⟩ <;> simpa [sentRequest, Except.map] using hP)
      refine ⟨asm, d', sd, req, hasm, hdoc, rfl, hreq, hpay, fun res hres => ?_⟩
      rcases r with err | ⟨o, _ | p⟩ <;> simp only [Except.map, reduceCtorEq, Except.ok.injEq] at hres <;>
        subst hres <;> exact ⟨rfl, hsends.2 o rfl⟩
  · exact (fail_unsent _ _ _ _).pass fun err hnone P hP => by
      simp [sentRequest, Except.map, hnone] at hP

/-- A lot submission that reports a request had its lot assembled by the client's assembler and
encoded, and sent the request the exchanger prepared for the payload; what it returns carries
the lot and the dId. -/
theorem submitLot_sends (cl : Client) (ex : Exchanger Id) (did rid : String)
    (docs : List (Option Document)) :
    Returns (cl.submitLot ex did rid docs) fun a =>
      ∀ P, sentRequest (a.2.map (·.outcome)) = some P →
        ∃ asm sealed lot p req, cl.assembler = some asm ∧ asm.lot did docs = .ok (sealed, lot) ∧
          a.1 = sealed.map some ∧ Archive.encodeLot lot.text = .ok p ∧
          ex.prepare (cl.url cl.paths.lot) (.lotSubmission did p) = .ok (some req) ∧
          req.payload = P ∧ ∀ res, a.2 = .ok res → res.lot = lot ∧ res.outcome.did = did := by
  unfold Client.submitLot
  dsimp only
  split
  · rename_i asm hasm
    split
    · exact .halt _
    · exact (fail_unsent _ _ _ _).pass fun err hnone P hP => by
        simp [sentRequest, Except.map, hnone] at hP
    · rename_i sealed lot hlot
      -- the assembled lot is logged before it is encoded
      refine .after_record _ ?_
      split
      · exact (fail_unsent _ _ _ _).pass fun err hnone P hP => by
          simp [sentRequest, Except.map, hnone] at hP
      · rename_i payload henc
        refine (run_sends _ _ _ _ _).pass fun r hsends P hP => ?_
        obtain ⟨req, hreq, hpay⟩ := hsends.1 P (by
          rcases r with err | ⟨o, q⟩ <;> simpa [sentRequest, Except.map] using hP)
        refine ⟨asm, sealed, lot, payload, req, hasm, hlot, rfl, henc, hreq, hpay, fun res hres => ?_⟩
        rcases r with err | ⟨o, q⟩ <;> simp only [Except.map, reduceCtorEq, Except.ok.injEq] at hres
        subst hres
        exact ⟨rfl, hsends.2 o rfl⟩
  · exact (fail_unsent _ _ _ _).pass fun err hnone P hP => by
      simp [sentRequest, Except.map, hnone] at hP

/-! ## Requests prepared as the transport prepares them -/

/-- An exchanger that prepares each request as the transport does, and sends it with `send`. -/
def Exchanger.preparing (send : Request → List Log.Record × Except Report (Option Response)) :
    Exchanger Id where
  prepare url body := ((Transport.prepare url (some body)).mapError Report.of).map some
  send := send

theorem preparing_eq_some {send : Request → List Log.Record × Except Report (Option Response)}
    {url : String} {body : Payload} {req : Request}
    (h : (Exchanger.preparing send).prepare url body = .ok (some req)) :
    Transport.prepare url (some body) = .ok req := by
  simp only [Exchanger.preparing] at h
  cases hp : Transport.prepare url (some body) with
  | error e => simp [hp, Except.mapError, Except.map] at h
  | ok r =>
    simp only [hp, Except.mapError, Except.map] at h
    cases h
    rfl

theorem prepare_eq_ok {url : String} {body : Payload} {req : Request}
    (h : Transport.prepare url (some body) = .ok req) :
    ∃ route, resolve url = .ok route ∧ buildEnvelope route.version (some body) = .ok req.payload := by
  unfold Transport.prepare at h
  cases hr : resolve url with
  | error e => simp [hr, Except.mapError, Bind.bind, Except.bind] at h
  | ok route =>
    cases hb : buildEnvelope route.version (some body) with
    | error e => simp [hr, hb, Except.mapError, Bind.bind, Except.bind] at h
    | ok payload =>
      simp only [hr, hb, Except.mapError, Bind.bind, Except.bind, Pure.pure, Except.pure,
        Except.ok.injEq] at h
      subst h
      exact ⟨route, rfl, hb⟩

/-! ## Reading a submission back -/

/-- A request text reads, in whichever order the dialects are tried, in a dialect of its
namespace. -/
theorem read_requestText_dialect (v : Version) {text name : String} {parts : List Node}
    (hroot : readRoot text = .ok (some (requestTree v name parts)))
    (hhead : text.toList.head? = some '<') (hlast : text.toList.getLast? = some '>') :
    ∃ w : Version, w.namespace = v.namespace ∧
      Envelope.read text = .ok ⟨w, requestTree v name parts, requestBody name parts⟩ := by
  have hreadAs := fun w => readAs_requestText w v hroot hhead hlast
  unfold Envelope.read
  -- the dialect of the other namespace fails, and the reader goes on to the next
  rcases dialectOrder_cases text with h | h <;> rw [h] <;> cases v <;>
    simp [Envelope.read.go, hreadAs, Version.namespace, soap_namespaces_ne, soap_namespaces_ne.symm]

/-- Character data read back alone in an element is the text it was written from, each character
XML does not allow replaced. -/
theorem text_readable (s sp t : String) (as : List Attr) :
    Element.text ⟨sp, t, as, consText (readableText s) []⟩ = readableText s := by
  by_cases hs : readableText s = "" <;> simp [hs, Element.text, Element.leadingText, consText]

/-- The `dId` of a request, its first child, reads back as its text. -/
theorem text_selectElement_dId (name did : String) (as : List Attr) (rest : List Node) :
    ((⟨"", name, as, valueNode "dId" did :: rest⟩ : Element).selectElement "dId").map Element.text =
      some (readableText did) := by
  have hd : ':' ∉ "dId".toList := by simp
  simp [Element.selectElement, Element.childElements, valueNode, Node.element?,
    answers_of_colon_free hd, text_readable]

/-- The `xDE` of a request, after its `dId`. -/
theorem selectElement_xDE (name did : String) (as as' : List Attr) (cs : List Node) :
    (⟨"", name, as, [valueNode "dId" did, .elem "" "xDE" as' cs]⟩ : Element).selectElement "xDE" =
      some ⟨"", "xDE", as', cs⟩ := by
  have hx : ':' ∉ "xDE".toList := by simp
  simp [Element.selectElement, Element.childElements, valueNode, Node.element?,
    answers_of_colon_free hx]

/-- A signed text reads as its tree with its character data joined. -/
theorem serialize_reads {rde : Element} (h : WritableNode rde.toNode) :
    ReadsNodes (serialize rde false).toList [rde.joined.toNode] := by
  have hread := ReadsNodes.canonical (writable_joinTexts [rde.toNode] ⟨h, trivial⟩)
    (joined_joinTexts [rde.toNode])
  rw [renderNodes_joinTexts, joinTexts_element] at hread
  simpa [renderNodes, serialize, Element.render] using hread

/-- The body of a document submission reads as the request's element: the `dId` as a value, and
the signed tree as the one element of `xDE`. -/
theorem documentRequest_reads (did : String) {rde : Element} (h : WritableNode rde.toNode) :
    ReadsNodes (requestElement "rEnviDe"
        [valueElement "dId" did, "<xDE>" ++ serialize rde false ++ "</xDE>"]).toList
      [.elem "" "rEnviDe" [sifenDeclaration]
        [valueNode "dId" did, .elem "" "xDE" [] [rde.joined.toNode]]] := by
  rw [requestElement_toList]
  apply ReadsNodes.element (show NCName "rEnviDe" by decide).nameReads
    (by simpa using sifenDeclaration_writable) (by simp)
  have hjoin : (String.join [valueElement "dId" did, "<xDE>" ++ serialize rde false ++ "</xDE>"]).toList =
      (valueElement "dId" did).toList ++ elementText "" "xDE" [] (serialize rde false).toList := by
    simp [elementText, fullName_plain]
  rw [hjoin, show [valueNode "dId" did, Node.elem "" "xDE" [] [rde.joined.toNode]] =
    [valueNode "dId" did] ++ [.elem "" "xDE" [] [rde.joined.toNode]] from rfl]
  exact (valueElement_reads (by decide) did).append
    (ReadsNodes.element (show NCName "xDE" by decide).nameReads (by simp) (by simp) (serialize_reads h))
    (elementText_head _ _ _ _)

/-- A document submission, in whichever dialect, reads back with the dId as the text of `dId`
and the signed tree, with its texts joined, as the one element of `xDE`. -/
theorem documentSubmission_reads_back (v : Version) (did : String) {rde : Element}
    (hrde : WritableNode rde.toNode) :
    ∃ P, buildEnvelope v (some (.documentSubmission did (serialize rde false))) = .ok P ∧
      ∃ env req, Envelope.read P = .ok env ∧ env.result "rEnviDe" = some req ∧
        (req.selectElement "dId").map Element.text = some (readableText did) ∧
        req.selectElement "xDE" = some ⟨"", "xDE", [], [rde.joined.toNode]⟩ := by
  obtain ⟨P, hP, hroot, hhead, hlast⟩ := readRoot_buildEnvelope v (p := .documentSubmission did (serialize rde false)) rfl
    (documentRequest_reads did hrde)
  obtain ⟨w, -, hread⟩ := read_requestText_dialect v hroot hhead hlast
  exact ⟨P, hP, _, _, hread, result_requestBody _ _ _ _, text_selectElement_dId _ _ _ _,
    selectElement_xDE _ _ _ _ _⟩

/-- A lot submission, in whichever dialect, reads back with the dId as the text of `dId` and the
payload, of characters XML allows, as the text of `xDE`. -/
theorem lotSubmission_reads_back (v : Version) (did : String) {p : String}
    (hp : ∀ c ∈ p.toList, isXmlChar c = true) :
    ∃ P, buildEnvelope v (some (.lotSubmission did p)) = .ok P ∧
      ∃ env req, Envelope.read P = .ok env ∧ env.result "rEnvioLote" = some req ∧
        (req.selectElement "dId").map Element.text = some (readableText did) ∧
        (req.selectElement "xDE").map Element.text = some p := by
  obtain ⟨P, hP, hroot, hhead, hlast⟩ :=
    readRoot_buildEnvelope v (p := .lotSubmission did p) rfl
      (requestElement_reads (show NCName "rEnvioLote" by decide) (show NCName "xDE" by decide) did p)
  obtain ⟨w, -, hread⟩ := read_requestText_dialect v hroot hhead hlast
  refine ⟨P, hP, _, _, hread, result_requestBody _ _ _ _, text_selectElement_dId _ _ _ _, ?_⟩
  rw [show valueNode "xDE" p = .elem "" "xDE" [] (consText (readableText p) []) from rfl,
    selectElement_xDE]
  exact congrArg some ((text_readable p "" "xDE" []).trans (readableText_of_chars hp))

/-! ## What a payload carries -/

/-- A base64 text holds only characters XML allows. -/
theorem base64_chars (bs : Bytes) : ∀ c ∈ (Crypto.Base64.encode bs).toList, isXmlChar c = true := by
  intro c hc
  have := Crypto.Base64.printable_encode bs c hc
  simp only [isXmlChar, decide_eq_true_eq]
  omega

/-- What the payload `P` of a document submission carries: the signed text `xml` as it is, as the
whole content of `xDE`; and, read back, the request `rEnviDe` with the dId `did` and, as the one
element in `xDE`, an `rDE` that is written back as `xml` and whose `DE` has identifier `id`. -/
structure DocumentPayload (did id xml P : String) : Prop where
  verbatim : ∃ pre post, P = pre ++ "<xDE>" ++ xml ++ "</xDE>" ++ post
  reads : ∃ env req rde, Envelope.read P = .ok env ∧ env.result "rEnviDe" = some req ∧
    (req.selectElement "dId").map Element.text = some did ∧
    req.selectElement "xDE" = some ⟨"", "xDE", [], [rde.toNode]⟩ ∧ rde.tag = "rDE" ∧
    serialize rde false = xml ∧ (rde.selectElement "DE").map (·.attrValue "Id" "") = some id

/-- What the payload `P` of a lot submission carries, read back: the request `rEnvioLote` with the
dId `did` and the text `p` in `xDE`. -/
def LotPayload (did p P : String) : Prop :=
  ∃ env req, Envelope.read P = .ok env ∧ env.result "rEnvioLote" = some req ∧
    (req.selectElement "dId").map Element.text = some did ∧
    (req.selectElement "xDE").map Element.text = some p

/-- The request for a new document that the assembler signed and sealed carries the signed text
it was sealed with. -/
theorem documentPayload_of_document {f : Fields} {d : Document} (hnew : Document.new f = .ok d)
    (did : String) {asm : Assembler} {d' : Document} {sd : SignedDocument} {url : String}
    {req : Request} (hdoc : asm.document (some d) = .ok (d', sd))
    (hreq : Transport.prepare url (some (.documentSubmission did sd.xml)) = .ok req) :
    d' = Signing.sealedAs d sd.element ∧ sd.xml = serialize sd.element false ∧
      DocumentPayload (readableText did) d.id sd.xml req.payload := by
  obtain ⟨hsign, hxml⟩ := document_signs hdoc
  obtain ⟨d0, hd0, -, hd'⟩ := Signing.document_eq_ok hdoc
  cases hd0
  obtain ⟨-, de, sig, -, -, -, hroot⟩ := sign_new hnew hsign
  obtain ⟨route, -, hbuild⟩ := prepare_eq_ok hreq
  obtain ⟨P, hP, env, rq, hread, hres, hdId, hxDE⟩ :=
    documentSubmission_reads_back route.version did hroot.writable
  have hpay : req.payload = P := Except.ok.inj (hbuild.symm.trans (hxml ▸ hP))
  obtain ⟨pre, post, hverb⟩ := buildEnvelope_documentSubmission route.version did sd.xml
  obtain ⟨extra, hsd, -⟩ := hroot.appended
  refine ⟨hd', hxml, ⟨pre, post, Except.ok.inj (hbuild.symm.trans hverb)⟩,
    env, rq, sd.element.joined, hpay ▸ hread, hres, hdId, hxDE, by rw [hsd]; rfl,
    by rw [serialize_joined, hxml], ?_⟩
  -- the `DE` read back is the written one, whose `Id` is the document's identifier
  rw [Element.selectElement_joined, hroot.selectElement_DE]
  simp [hroot.written.attrValue_joined]

/-- The request for a lot's payload carries the payload as the text of `xDE`. -/
theorem lotPayload_of_encodeLot {did text p url : String} {req : Request}
    (henc : Archive.encodeLot text = .ok p)
    (hreq : Transport.prepare url (some (.lotSubmission did p)) = .ok req) :
    LotPayload (readableText did) p req.payload := by
  obtain ⟨-, data, -, rfl⟩ := Archive.encodeLotBytes_eq_ok henc
  obtain ⟨route, -, hbuild⟩ := prepare_eq_ok hreq
  obtain ⟨P, hP, env, rq, hread, hres, hdId, hxDE⟩ := lotSubmission_reads_back route.version did
    (base64_chars (Archive.zipOneEntry (Text.encode Archive.lotEntryName) (Text.encode text) data.toList))
  have hpay : req.payload = P := Except.ok.inj (hbuild.symm.trans hP)
  exact ⟨env, rq, hpay ▸ hread, hres, hdId, hxDE⟩

/-! ## Submissions on the wire -/

theorem submission_wire_fidelity {f : Fields} {d : Document} (hnew : Document.new f = .ok d)
    (cl : Client) (send : Request → List Log.Record × Except Report (Option Response))
    (did rid : String) (ns : List Note) :
    (∀ a, ((cl.submitDocument (.preparing send) did rid (some d)).run.run ns).1 = .ok a →
      ∀ P, sentRequest (a.2.map (·.outcome)) = some P →
        ∃ rde, a.1 = some (Signing.sealedAs d rde) ∧
          DocumentPayload (readableText did) d.id (serialize rde false) P ∧
          ∀ res, a.2 = .ok res → res.signedXml = serialize rde false ∧ res.outcome.did = did) ∧
    ∀ docs a, ((cl.submitLot (.preparing send) did rid docs).run.run ns).1 = .ok a →
      ∀ P, sentRequest (a.2.map (·.outcome)) = some P →
        ∃ asm sealed lot p, cl.assembler = some asm ∧ asm.lot did docs = .ok (sealed, lot) ∧
          lot.id = did ∧ Archive.encodeLot lot.text = .ok p ∧ LotPayload (readableText did) p P ∧
          (∀ res, a.2 = .ok res → res.lot = lot ∧ res.outcome.did = did) ∧
          (Archive.DeflateInverts (-1) (Text.encode lot.text) →
            ((Text.encode lot.text).length ≤ Archive.maxLotSize →
              ∃ text, Archive.decodeLot p = .ok text ∧ Text.encode text = Text.encode lot.text) ∧
            (Archive.maxLotSize < (Text.encode lot.text).length →
              ∃ e, Archive.decodeLot p = .error (.compression e))) := by
  refine ⟨fun a ha P hP => ?_, fun docs a ha P hP => ?_⟩
  · -- a document: the request sent is the one for the text the document was sealed with
    obtain ⟨asm, d', sd, req, -, hdoc, hafter, hreq, hpay, hres⟩ :=
      (submitDocument_sends cl _ did rid d).run_eq ha P hP
    obtain ⟨hd', hxml, hpayload⟩ := documentPayload_of_document hnew did hdoc (preparing_eq_some hreq)
    refine ⟨sd.element, by rw [hafter, hd'], hxml ▸ hpay ▸ hpayload, fun res h => ?_⟩
    obtain ⟨hsigned, hdid'⟩ := hres res h
    exact ⟨hsigned.trans hxml, hdid'⟩
  · -- a lot: the request sent is the one for the payload of the lot assembled for the dId
    obtain ⟨asm, sealed, lot, p, req, hasm, hlot, -, henc, hreq, hpay, hres⟩ :=
      (submitLot_sends cl _ did rid docs).run_eq ha P hP
    obtain ⟨signed, -, hlotEq⟩ := lot_eq_ok_lot hlot
    exact ⟨asm, sealed, lot, p, hasm, hlot, by rw [hlotEq], henc,
      hpay ▸ lotPayload_of_encodeLot henc (preparing_eq_some hreq), hres,
      fun hcodec => Archive.decodeLot_of_encodeLotBytes hcodec henc⟩

/-- The sample invoice, submitted under the first dId a session hands out: whatever client and
however the request is sent, a request sent reads back with that dId and the invoice's
identifier. -/
theorem sampleInvoice_submission_reads :
    Document.new Signing.sampleInvoice = .ok Signing.sampleDocument ∧
      ∀ (cl : Client) (send : Request → List Log.Record × Except Report (Option Response))
        (ns : List Note) a P,
        ((cl.submitDocument (.preparing send) "000000000000001" "" (some Signing.sampleDocument)).run.run
          ns).1 = .ok a →
        sentRequest (a.2.map (·.outcome)) = some P →
        ∃ xml, DocumentPayload "000000000000001" "01800897528001001000000122024011510000001236" xml P := by
  refine ⟨Signing.new_sampleInvoice, fun cl send ns a P ha hP => ?_⟩
  obtain ⟨rde, -, hpayload, -⟩ :=
    (submission_wire_fidelity Signing.new_sampleInvoice cl send "000000000000001" "" ns).1 a ha P hP
  rw [readableText_of_chars (List.all_eq_true.1 (by rfl))] at hpayload
  exact ⟨_, hpayload⟩

/-- A dId holding a character XML does not allow is not what a document submission carries: the
request reads back with U+FFFD in its place. -/
theorem controlDid_reads_replaced :
    ∃ P, buildEnvelope .soap12 (some (.documentSubmission "\x01" "<rDE></rDE>")) = .ok P ∧
      ∃ env req, Envelope.read P = .ok env ∧ env.result "rEnviDe" = some req ∧
        (req.selectElement "dId").map Element.text = some "�" := by
  have hrde : WritableNode (Element.toNode ⟨"", "rDE", [], []⟩) :=
    ⟨(show NCName "rDE" by decide).nameReads, by simp, by simp, trivial⟩
  obtain ⟨P, hP, env, req, hread, hres, hdId, -⟩ := documentSubmission_reads_back .soap12 "\x01" hrde
  exact ⟨P, hP, env, req, hread, hres, hdId.trans (by decide)⟩

end EInvoice.Sifen
