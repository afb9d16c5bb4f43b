import EInvoice.Proofs.DocumentReading
import EInvoice.Soap.Response
import Mathlib

/-!
# Request envelopes read back

A request is written as text by `buildEnvelope`: the declaration, the SOAP envelope in the
dialect's namespace, and in its body the request element in the e-invoicing namespace around
its parts, each part written by hand. This module shows that for the two submissions the text
is exactly what the canonical writer gives for a tree, `requestTree`
(`markup_documentSubmission`, `markup_lotSubmission`, `buildEnvelope_eq`), so the reading
theorems of the markup apply to it: the envelope reads back, whichever dialect the reader tries
first, and its body holds the request element as it was written (`read_requestTree`).

The payload parts are written with numeric escaping, which differs from the canonical writer's
text escaping only on quotes, tabs and line feeds (`WritesAsText`); the `dId` the client makes
and the base64 text of a lot hold none of them.

Main statements: `documentSubmission_reads` and `lotSubmission_reads`, what reading a
submission's envelope gives back; `buildEnvelope_documentSubmission`, the document's text
standing as it is between `<xDE>` and `</xDE>`.
-/

namespace EInvoice.Soap

open EInvoice.Xml EInvoice.Text

/-! ## The tree of a request -/

/-- The tree of a request envelope whose body holds one request element `name` with `parts`. -/
def requestTree (v : Version) (name : String) (parts : List Node) : Element :=
  ⟨"soap", "Envelope", [⟨"xmlns", "soap", v.namespace⟩],
    [.elem "soap" "Header" [] [],
     .elem "soap" "Body" [] [.elem "" name [⟨"", "xmlns", Invoice.sifenNamespace⟩] parts]]⟩

/-- The body of a request envelope. -/
def requestBody (name : String) (parts : List Node) : Element :=
  ⟨"soap", "Body", [], [.elem "" name [⟨"", "xmlns", Invoice.sifenNamespace⟩] parts]⟩

theorem namespace_chars (v : Version) : ∀ c ∈ v.namespace.toList, isXmlChar c = true := by
  have h12 : ∀ c ∈ soap12Namespace.toList, isXmlChar c = true := List.all_eq_true.1 (by rfl)
  have h11 : ∀ c ∈ soap11Namespace.toList, isXmlChar c = true := List.all_eq_true.1 (by rfl)
  cases v with
  | soap11 => exact h11
  | _ => exact h12

/-- A request envelope can be written and read back when its request element's parts can. -/
theorem requestTree_writable (v : Version) {name : String} {parts : List Node} (hname : NCName name)
    (hparts : WritableNodes parts) : WritableNode (requestTree v name parts).toNode := by
  have hsoap : NCName "soap" := by decide
  have hxmlns : NCName "xmlns" := by decide
  simp only [requestTree, Element.toNode, WritableNode, WritableNodes, List.mem_singleton,
    forall_eq, List.not_mem_nil, false_imp_iff, implies_true, List.map_cons, List.map_nil,
    List.nodup_cons, List.nodup_nil, and_true, true_and, not_false_eq_true]
  refine ⟨hsoap.nameReads_prefixed (by decide), ⟨hxmlns.nameReads_prefixed hsoap, namespace_chars v⟩,
    hsoap.nameReads_prefixed (by decide), hsoap.nameReads_prefixed (by decide), hname.nameReads,
    ⟨hxmlns.nameReads, Invoice.sifenNamespace_chars⟩, hparts⟩

theorem requestTree_joined (v : Version) (name : String) (parts : List Node) :
    (requestTree v name parts).joined = requestTree v name (joinTexts parts) := by
  simp [requestTree, Element.joined, joinTexts, joinNode]

theorem render_requestTree (v : Version) (name : String) (parts : List Node) :
    (requestTree v name parts).render =
      "<soap:Envelope xmlns:soap=\"" ++ escape .attr v.namespace ++
        "\"><soap:Header></soap:Header><soap:Body>" ++
        renderNodes .canonicalStyle [.elem "" name [⟨"", "xmlns", Invoice.sifenNamespace⟩] parts] ++
        "</soap:Body></soap:Envelope>" := by
  simp only [Element.render, requestTree, Element.toNode, renderNodes, renderNode, renderAttr,
    Attr.fullKey, fullName, Style.valueEscape, Style.canonicalStyle, if_true, List.map_cons,
    List.map_nil, String.join_cons, String.join_nil]
  rw [← String.toList_inj]
  simp

/-! ## Writing the request by hand -/

/-- A text that numeric escaping writes as text escaping does: it holds no quote, tab or line
feed, which only numeric escaping writes as references. -/
def WritesAsText (s : String) : Prop := ∀ c ∈ s.toList, c ≠ '\'' ∧ c ≠ '"' ∧ c ≠ '\t' ∧ c ≠ '\n'

theorem escape_numeric_eq_text {s : String} (h : WritesAsText s) :
    escape .numeric s = escape .text s := by
  unfold escape
  congr 1
  refine List.map_congr_left fun c hc => ?_
  obtain ⟨h1, h2, h3, h4⟩ := h c hc
  unfold Xml.escapeChar
  split <;> simp_all

theorem escape_namespace (v : Version) : escape .numeric v.namespace = escape .attr v.namespace := by
  cases v <;> simp only [Version.namespace] <;> rfl

theorem escape_sifenNamespace :
    escape .numeric Invoice.sifenNamespace = escape .attr Invoice.sifenNamespace := by rfl

/-- An envelope around a payload whose markup is the canonical text of a request element is
the canonical text of the request's tree. -/
theorem buildEnvelope_eq (v : Version) {p : Payload} {name : String} {parts : List Node}
    (hp : p.markup = .ok (renderNodes .canonicalStyle
      [.elem "" name [⟨"", "xmlns", Invoice.sifenNamespace⟩] parts])) :
    buildEnvelope v (some p) = .ok (serialize (requestTree v name parts) true) := by
  simp only [buildEnvelope, hp, Bind.bind, Except.bind, Pure.pure, Except.pure, serialize, if_true,
    render_requestTree, escape_namespace]
  refine congrArg Except.ok ?_
  rw [← String.toList_inj]
  simp

theorem markup_documentSubmission {did : String} (hdid : WritesAsText did) (rde : Element) :
    (Payload.documentSubmission did (serialize rde false)).markup =
      .ok (renderNodes .canonicalStyle [.elem "" "rEnviDe" [⟨"", "xmlns", Invoice.sifenNamespace⟩]
        [.elem "" "dId" [] [.text did], .elem "" "xDE" [] [rde.toNode]]]) := by
  simp only [Payload.markup, requestElement, valueElement, serialize, Element.render,
    escape_numeric_eq_text hdid, escape_sifenNamespace]
  refine congrArg Except.ok ?_
  rw [← String.toList_inj]
  simp [renderNodes, renderNode, renderAttr, Attr.fullKey, fullName, Style.valueEscape,
    Style.textEscape, Style.canonicalStyle]

theorem markup_lotSubmission {did p : String} (hdid : WritesAsText did) (hp : WritesAsText p) :
    (Payload.lotSubmission did p).markup =
      .ok (renderNodes .canonicalStyle [.elem "" "rEnvioLote" [⟨"", "xmlns", Invoice.sifenNamespace⟩]
        [.elem "" "dId" [] [.text did], .elem "" "xDE" [] [.text p]]]) := by
  simp only [Payload.markup, requestElement, valueElement, escape_numeric_eq_text hdid,
    escape_numeric_eq_text hp, escape_sifenNamespace]
  refine congrArg Except.ok ?_
  rw [← String.toList_inj]
  simp [renderNodes, renderNode, renderAttr, Attr.fullKey, fullName, Style.valueEscape,
    Style.textEscape, Style.canonicalStyle]

/-- The envelope of a document submission holds the document's text as it is, as the whole
content of its `xDE` element. -/
theorem buildEnvelope_documentSubmission (v : Version) (did xde : String) :
    ∃ pre post, buildEnvelope v (some (.documentSubmission did xde)) =
      .ok (pre ++ "<xDE>" ++ xde ++ "</xDE>" ++ post) := by
  refine ⟨declaration ++ "<soap:Envelope xmlns:soap=\"" ++ escape .numeric v.namespace ++ "\">" ++
    "<soap:Header></soap:Header><soap:Body>" ++ "<" ++ "rEnviDe" ++ " xmlns=\"" ++
    escape .numeric Invoice.sifenNamespace ++ "\">" ++ valueElement "dId" did,
    "</" ++ "rEnviDe" ++ ">" ++ "</soap:Body></soap:Envelope>", ?_⟩
  simp only [buildEnvelope, Payload.markup, requestElement, Bind.bind, Except.bind, Pure.pure,
    Except.pure, String.join_cons, String.join_nil, String.append_empty, String.append_assoc]

/-! ## Trimming -/

theorem dropBlanks_of_head {cs : List Char} {c : Char} (h : cs.head? = some c)
    (hc : isBlank c = false) : dropBlanks cs = cs := by
  cases cs with
  | nil => cases h
  | cons d ds =>
    cases h
    simp [dropBlanks, hc]

/-- A text that starts and ends with characters that are not blank is its own trim. -/
theorem trim_of_ends {s : String} {c d : Char} (hc : s.toList.head? = some c)
    (hd : s.toList.getLast? = some d) (hc' : isBlank c = false) (hd' : isBlank d = false) :
    trim s = s := by
  have hrev : s.toList.reverse.head? = some d := by rwa [List.head?_reverse]
  simp [trim, dropBlanks_of_head hc hc', dropBlanks_of_head hrev hd']

theorem trim_requestTree (v : Version) (name : String) (parts : List Node) :
    trim (serialize (requestTree v name parts) true) = serialize (requestTree v name parts) true := by
  apply trim_of_ends (c := '<') (d := '>') _ _ (by decide) (by decide)
  · simp [serialize, declaration]
  · simp only [serialize, if_true, render_requestTree, String.toList_append, List.getLast?_append]
    simp

theorem serialize_ne_empty (e : Element) : (serialize e true).isEmpty = false := by
  simp [serialize, declaration]

/-! ## Reading the envelope -/

theorem namespaceOf_requestTree (v : Version) (name : String) (parts : List Node) :
    namespaceOf (requestTree v name parts) [] = v.namespace := by
  simp [Xml.namespaceOf, Xml.resolve, Element.declared, requestTree]

theorem namespaceOf_requestBody (v : Version) (name : String) (parts : List Node) :
    namespaceOf (requestBody name parts) [requestTree v name parts] = v.namespace := by
  simp [Xml.namespaceOf, Xml.resolve, Element.declared, requestTree, requestBody]

theorem childElements_requestTree (v : Version) (name : String) (parts : List Node) :
    (requestTree v name parts).childElements =
      [⟨"soap", "Header", [], []⟩, requestBody name parts] := by
  simp [Element.childElements, requestTree, requestBody, Node.element?]

/-- The body is found in a dialect exactly when the envelope is in the dialect's namespace. -/
theorem find_requestBody (w v : Version) (name : String) (parts : List Node) :
    (requestTree v name parts).childElements.find?
        (fun c => decide (c.tag = "Body" ∧ namespaceOf c [requestTree v name parts] = w.namespace)) =
      if v.namespace = w.namespace then some (requestBody name parts) else none := by
  have htag : (requestBody name parts).tag = "Body" := rfl
  rw [childElements_requestTree]
  simp only [List.find?, htag, namespaceOf_requestBody]
  by_cases h : v.namespace = w.namespace <;> simp [h]

theorem readAs_requestTree (w v : Version) {name : String} {parts : List Node} (hname : NCName name)
    (hparts : WritableNodes parts) :
    Envelope.readAs w (serialize (requestTree v name parts) true) =
      if w.namespace = v.namespace then
        .ok ⟨w, requestTree v name (joinTexts parts), requestBody name (joinTexts parts)⟩
      else .error (.wrongNamespace v.namespace) := by
  unfold Envelope.readAs
  dsimp only
  rw [trim_requestTree, readRoot_serialize (requestTree_writable v hname hparts), requestTree_joined]
  simp only [serialize_ne_empty, Bool.false_eq_true, if_false, Bind.bind, Except.bind, Pure.pure,
    Except.pure, namespaceOf_requestTree, find_requestBody]
  by_cases h : w.namespace = v.namespace
  · simp [h, requestTree]
  · simp [h, Ne.symm h, requestTree]

theorem soap_namespaces_ne : soap12Namespace ≠ soap11Namespace := by
  simp [soap12Namespace, soap11Namespace]

theorem dialectOrder_cases (raw : String) :
    dialectOrder raw = [.soap12, .soap11] ∨ dialectOrder raw = [.soap11, .soap12] := by
  unfold dialectOrder
  split_ifs <;> simp

/-- A request envelope reads back, in whichever order the dialects are tried, in a dialect of its
namespace, as the tree written with its texts joined. -/
theorem read_requestTree (v : Version) {name : String} {parts : List Node} (hname : NCName name)
    (hparts : WritableNodes parts) :
    ∃ w : Version, w.namespace = v.namespace ∧
      Envelope.read (serialize (requestTree v name parts) true) =
        .ok ⟨w, requestTree v name (joinTexts parts), requestBody name (joinTexts parts)⟩ := by
  have hreadAs := fun w => readAs_requestTree w v hname hparts
  unfold Envelope.read
  -- the dialect of the other namespace fails, and the reader goes on to the next
  rcases dialectOrder_cases (serialize (requestTree v name parts) true) with h | h <;>
    rw [h] <;> cases v <;>
    simp [Envelope.read.go, hreadAs, Version.namespace, soap_namespaces_ne, soap_namespaces_ne.symm]

@[simp] theorem result_requestBody (w : Version) (root : Element) (name : String) (parts : List Node) :
    Envelope.result ⟨w, root, requestBody name parts⟩ name =
      some ⟨"", name, [⟨"", "xmlns", Invoice.sifenNamespace⟩], parts⟩ := by
  simp [Envelope.result, requestBody, Element.childElements, Node.element?]

/-! ## The parts of a submission -/

theorem readableText_of_chars {s : String} (h : ∀ c ∈ s.toList, isXmlChar c = true) :
    readableText s = s := by
  simp [readableText, map_readable h]

/-- Character data read back alone in an element is the text it was written from. -/
theorem text_consText {s : String} (h : ∀ c ∈ s.toList, isXmlChar c = true) (sp t : String)
    (as : List Attr) : Element.text ⟨sp, t, as, consText (readableText s) []⟩ = s := by
  rw [readableText_of_chars h]
  by_cases hs : s = "" <;> simp [hs, Element.text, Element.leadingText, consText]

/-- The two parts of a request read back: its `dId` text and its `xDE` element. -/
theorem selectElement_request {did : String} (hdid : ∀ c ∈ did.toList, isXmlChar c = true)
    (name : String) (as : List Attr) (x : Node) :
    ((⟨"", name, as, joinTexts [.elem "" "dId" [] [.text did], .elem "" "xDE" [] [x]]⟩ :
        Element).selectElement "dId").map Element.text = some did ∧
    (⟨"", name, as, joinTexts [.elem "" "dId" [] [.text did], .elem "" "xDE" [] [x]]⟩ :
        Element).selectElement "xDE" = some ⟨"", "xDE", [], joinTexts [x]⟩ := by
  have hd : ':' ∉ "dId".toList := by simp
  have hx : ':' ∉ "xDE".toList := by simp
  simp [Element.selectElement, Element.childElements, joinTexts, joinNode, Node.element?,
    answers_of_colon_free hd, answers_of_colon_free hx, text_consText hdid]

theorem textElement_writable {t : String} (ht : NCName t) (s : String) :
    WritableNode (.elem "" t [] [.text s]) :=
  ⟨ht.nameReads, by simp, by simp, trivial, trivial⟩

theorem joinTexts_element (e : Element) : joinTexts [e.toNode] = [e.joined.toNode] := rfl

/-- A document submission is an envelope that reads back, whatever dialect it is written in, with
the `dId` given and the document's tree as the one element in `xDE`. -/
theorem documentSubmission_reads (v : Version) {did : String} (hdid : WritesAsText did)
    (hchars : ∀ c ∈ did.toList, isXmlChar c = true) {rde : Element} (hrde : WritableNode rde.toNode) :
    ∃ P, buildEnvelope v (some (.documentSubmission did (serialize rde false))) = .ok P ∧
      ∃ env req, Envelope.read P = .ok env ∧ env.result "rEnviDe" = some req ∧
        (req.selectElement "dId").map Element.text = some did ∧
        req.selectElement "xDE" = some ⟨"", "xDE", [], [rde.joined.toNode]⟩ := by
  have hparts : WritableNodes [.elem "" "dId" [] [.text did], .elem "" "xDE" [] [rde.toNode]] :=
    ⟨textElement_writable (by decide) did,
      ⟨(show NCName "xDE" by decide).nameReads, by simp, by simp, hrde, trivial⟩, trivial⟩
  obtain ⟨w, -, hread⟩ := read_requestTree v (show NCName "rEnviDe" by decide) hparts
  obtain ⟨hdId, hxDE⟩ := selectElement_request hchars "rEnviDe"
    [⟨"", "xmlns", Invoice.sifenNamespace⟩] rde.toNode
  exact ⟨_, buildEnvelope_eq v (markup_documentSubmission hdid rde), _, _, hread,
    result_requestBody _ _ _ _, hdId, hxDE⟩

/-- A lot submission is an envelope that reads back, whatever dialect it is written in, with the
`dId` given and the payload as the text of `xDE`. -/
theorem lotSubmission_reads (v : Version) {did p : String} (hdid : WritesAsText did)
    (hchars : ∀ c ∈ did.toList, isXmlChar c = true) (hp : WritesAsText p)
    (hpchars : ∀ c ∈ p.toList, isXmlChar c = true) :
    ∃ P, buildEnvelope v (some (.lotSubmission did p)) = .ok P ∧
      ∃ env req, Envelope.read P = .ok env ∧ env.result "rEnvioLote" = some req ∧
        (req.selectElement "dId").map Element.text = some did ∧
        (req.selectElement "xDE").map Element.text = some p := by
  have hparts : WritableNodes [.elem "" "dId" [] [.text did], .elem "" "xDE" [] [.text p]] :=
    ⟨textElement_writable (by decide) did, textElement_writable (by decide) p, trivial⟩
  obtain ⟨w, -, hread⟩ := read_requestTree v (show NCName "rEnvioLote" by decide) hparts
  obtain ⟨hdId, hxDE⟩ := selectElement_request hchars "rEnvioLote"
    [⟨"", "xmlns", Invoice.sifenNamespace⟩] (.text p)
  refine ⟨_, buildEnvelope_eq v (markup_lotSubmission hdid hp), _, _, hread,
    result_requestBody _ _ _ _, hdId, ?_⟩
  rw [hxDE]
  exact congrArg some (text_consText hpchars "" "xDE" [])

end EInvoice.Soap
