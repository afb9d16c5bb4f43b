import EInvoice.Proofs.Dialect
import Mathlib

/-!
# Request values read back

The requests that carry values (the taxpayer lookup, the lot submission and the two queries)
are written by hand: each value stands between the tags of its element, escaped numerically, so
that besides markup and carriage returns also quotes, tabs and line feeds are written as
references (`Escape.numeric`). Such text is no canonical writing of a tree, so the reading
theorems of canonical text do not apply to it directly. They apply piece by piece: text that
reads as some nodes in front of any markup (`ReadsNodes`) can be put together, wrapped in the
tags of an element, or be numerically escaped character data.

So the whole request reads back as the tree of the request, with every value as the text of its
element, whatever characters it holds, as long as XML allows them.

Main statement: `request_values_read_back`.
-/

namespace EInvoice.Soap

open EInvoice.Xml EInvoice.Text

/-! ## Text that reads as nodes -/

theorem elementText_head (sp t : String) (as : List Attr) (body : List Char) :
    ∀ c ∈ (elementText sp t as body).head?, c = '<' := by
  simp [elementText]

theorem elementText_getLast (sp t : String) (as : List Attr) (body : List Char) :
    (elementText sp t as body).getLast? = some '>' := by
  rw [show elementText sp t as body = ('<' :: ((fullName sp t).toList ++
      (as.flatMap fun a => (renderAttr .canonicalStyle a).toList) ++
      '>' :: (body ++ '<' :: '/' :: (fullName sp t).toList))) ++ ['>'] by simp [elementText]]
  exact List.getLast?_concat

/-- Text that reads as the nodes `ns`, added in order where the reader stands, in front of any
text that opens with markup; it takes at least one character per token. -/
structure ReadsNodes (s : List Char) (ns : List Node) : Prop where
  count : tokenCounts ns ≤ s.length
  reads : ∀ input fuel st rest, (∀ c ∈ rest.head?, c = '<') →
    readTokens input (tokenCounts ns + fuel) st (s ++ rest) =
      readTokens input fuel (ns.foldl Stack.push st) rest

theorem tokenCounts_append (ns ms : List Node) :
    tokenCounts (ns ++ ms) = tokenCounts ns + tokenCounts ms := by
  induction ns with
  | nil => simp [tokenCounts]
  | cons n ns ih => simp only [List.cons_append, tokenCounts, ih]; omega

namespace ReadsNodes

theorem nil : ReadsNodes [] [] :=
  ⟨by simp [tokenCounts], fun _ _ _ _ _ => by simp [tokenCounts]⟩

/-- Text that reads as nodes, then text that opens with markup and reads as more nodes. -/
theorem append {s t : List Char} {ns ms : List Node} (h1 : ReadsNodes s ns) (h2 : ReadsNodes t ms)
    (ht : ∀ c ∈ t.head?, c = '<') : ReadsNodes (s ++ t) (ns ++ ms) where
  count := by
    have := h1.count
    have := h2.count
    simp only [tokenCounts_append, List.length_append]
    omega
  reads input fuel st rest hrest := by
    -- the first part is followed by the second, which opens with markup unless it is empty
    have hafter : ∀ c ∈ (t ++ rest).head?, c = '<' := by
      cases t with
      | nil => simpa using hrest
      | cons x xs => simpa using ht
    rw [tokenCounts_append, Nat.add_assoc, List.append_assoc, h1.reads input _ st _ hafter,
      h2.reads input fuel _ rest hrest, List.foldl_append]

/-- Canonically written nodes read as themselves, when they are as reading gives them. -/
theorem canonical {ns : List Node} (hw : WritableNodes ns) (hj : JoinedNodes ns) :
    ReadsNodes (renderNodes .canonicalStyle ns).toList ns :=
  ⟨tokenCounts_le ns hj, fun input fuel st rest hrest => readTokens_nodes ns input fuel st rest hw hj hrest⟩

/-- Character data written by a readable escaping reads as one run of character data, or as
nothing when it is empty. -/
theorem escaped {m : Escape} (hm : ∀ c, WrittenReadably m c) (d : String) :
    ReadsNodes (escape m d).toList (consText (readableText d) []) := by
  by_cases hd : d = ""
  · subst hd
    simpa [consText, readableText, escape] using nil
  · obtain ⟨c, d', hcd⟩ : ∃ c d', d.toList = c :: d' := by
      cases h : d.toList with
      | nil => exact absurd (String.toList_eq_nil_iff.1 h) hd
      | cons c d' => exact ⟨c, d', rfl⟩
    rw [show consText (readableText d) [] = [.text (readableText d)] by
      simp [consText, readableText_ne_empty hd]]
    refine ⟨?_, fun input fuel st rest hrest => ?_⟩
    · -- the run takes at least the characters written for its first character
      obtain ⟨e, es, he, -⟩ := (hm c).head
      simp [tokenCounts, tokenCount, escape_toList, hcd, he]
    · rw [show tokenCounts [.text (readableText d)] + fuel = fuel + 1 by
        simp only [tokenCounts, tokenCount]; omega]
      exact readTokens_step (nextToken_escaped (fun c _ => hm c) hd hrest) rfl

/-- An element's text reads as the element when its content reads as its children. -/
theorem element {sp t : String} (hname : NameReads sp t) {as : List Attr}
    (hattrs : ∀ a ∈ as, AttrWritable a) (hnodup : (as.map fun a => (a.space, a.key)).Nodup)
    {body : List Char} {cs : List Node} (hbody : ReadsNodes body cs) :
    ReadsNodes (elementText sp t as body) [.elem sp t as cs] where
  count := by
    have := hbody.count
    simp only [elementText, tokenCounts, tokenCount, List.length_cons, List.length_append]
    omega
  reads input fuel st rest _ := by
    rw [show tokenCounts [.elem sp t as cs] + fuel = tokenCount (.elem sp t as cs) + fuel by
      simp [tokenCounts]]
    exact readTokens_element hname hattrs hnodup hbody.reads input fuel st rest

/-- A document that reads as its nodes. -/
theorem readNodes_eq {text : String} {ns : List Node} (h : ReadsNodes text.toList ns) :
    readNodes text = .ok ns := by
  unfold readNodes
  obtain ⟨k, hk⟩ : ∃ k, text.toList.length + 1 = tokenCounts ns + (k + 1) :=
    ⟨text.toList.length - tokenCounts ns, by have := h.count; omega⟩
  have hread := h.reads text.toList (k + 1) ⟨[], []⟩ [] (by simp)
  rw [List.append_nil] at hread
  simp only
  rw [hk, hread, foldl_push_top, readTokens_nil rfl]
  simp

end ReadsNodes

/-! ## The request text -/

theorem fullName_plain (t : String) : fullName "" t = t := by simp [fullName]

theorem fullName_soap (t : String) : fullName "soap" t = "soap:" ++ t := by
  simp [fullName]

/-- A value element is the element's text around the value, numerically escaped. -/
theorem valueElement_toList (tag value : String) :
    (valueElement tag value).toList = elementText "" tag [] (escape .numeric value).toList := by
  simp [valueElement, elementText, fullName_plain]

/-- The xmlns declaration of the e-invoicing namespace that a request element carries. -/
def sifenDeclaration : Attr := ⟨"", "xmlns", Invoice.sifenNamespace⟩

theorem requestElement_toList (tag : String) (parts : List String) :
    (requestElement tag parts).toList =
      elementText "" tag [sifenDeclaration] (String.join parts).toList := by
  simp [requestElement, elementText, fullName_plain, renderAttr, sifenDeclaration, Attr.fullKey,
    Style.valueEscape, Style.canonicalStyle, escape_sifenNamespace]

/-- The written envelope around the markup of a body: the declaration, then the envelope in the
dialect's namespace with an empty header and the body. -/
theorem buildEnvelope_toList (v : Version) {p : Payload} {inner : String} (h : p.markup = .ok inner) :
    ∃ text, buildEnvelope v (some p) = .ok text ∧
      text.toList = (renderNode .canonicalStyle (.instruction "xml" declarationBody)).toList ++
        elementText "soap" "Envelope" [⟨"xmlns", "soap", v.namespace⟩]
          (elementText "soap" "Header" [] [] ++ elementText "soap" "Body" [] inner.toList) := by
  simp only [buildEnvelope, h, bind, Except.bind, pure, Except.pure, Except.ok.injEq,
    exists_eq_left']
  rw [← declaration_eq]
  simp [elementText, fullName, renderAttr, Attr.fullKey, Style.valueEscape,
    Style.canonicalStyle, escape_namespace]

/-! ## Reading the request -/

/-- The nodes a value element reads as: the element with its value as character data. -/
def valueNode (tag value : String) : Node := .elem "" tag [] (consText (readableText value) [])

theorem valueElement_reads {tag : String} (htag : NCName tag) (value : String) :
    ReadsNodes (valueElement tag value).toList [valueNode tag value] := by
  rw [valueElement_toList]
  exact ReadsNodes.element htag.nameReads (by simp) (by simp)
    (ReadsNodes.escaped writtenReadably_numeric value)

theorem sifenDeclaration_writable : AttrWritable sifenDeclaration :=
  ⟨(show NCName "xmlns" by decide).nameReads, Invoice.sifenNamespace_chars⟩

/-- A request element with a `dId` and one value reads as the request's element. -/
theorem requestElement_reads {name field : String} (hname : NCName name) (hfield : NCName field)
    (did value : String) :
    ReadsNodes (requestElement name [valueElement "dId" did, valueElement field value]).toList
      [.elem "" name [sifenDeclaration] [valueNode "dId" did, valueNode field value]] := by
  rw [requestElement_toList]
  apply ReadsNodes.element hname.nameReads (by simpa using sifenDeclaration_writable) (by simp)
  have hjoin : (String.join [valueElement "dId" did, valueElement field value]).toList =
      (valueElement "dId" did).toList ++ (valueElement field value).toList := by simp
  rw [hjoin, show [valueNode "dId" did, valueNode field value] =
    [valueNode "dId" did] ++ [valueNode field value] from rfl]
  refine (valueElement_reads (by decide) did).append (valueElement_reads hfield value) ?_
  rw [valueElement_toList]
  exact elementText_head _ _ _ _

theorem namespace_attr_writable (v : Version) : AttrWritable ⟨"xmlns", "soap", v.namespace⟩ :=
  ⟨(show NCName "xmlns" by decide).nameReads_prefixed (show NCName "soap" by decide),
    namespace_chars v⟩

/-- A request envelope whose body reads as the request's element is read as the tree of the
request, after the declaration; its text opens with `<` and closes with `>`. -/
theorem readRoot_buildEnvelope (v : Version) {p : Payload} {inner name : String} {parts : List Node}
    (h : p.markup = .ok inner) (hinner : ReadsNodes inner.toList [.elem "" name [sifenDeclaration] parts]) :
    ∃ text, buildEnvelope v (some p) = .ok text ∧
      readRoot text = .ok (some (requestTree v name parts)) ∧
      text.toList.head? = some '<' ∧ text.toList.getLast? = some '>' := by
  obtain ⟨text, htext, hlist⟩ := buildEnvelope_toList v h
  have hsoap : NCName "soap" := by decide
  have hheader : ReadsNodes (elementText "soap" "Header" [] []) [.elem "soap" "Header" [] []] :=
    ReadsNodes.element (hsoap.nameReads_prefixed (by decide)) (by simp) (by simp) ReadsNodes.nil
  have hbody : ReadsNodes (elementText "soap" "Body" [] inner.toList)
      [.elem "soap" "Body" [] [.elem "" name [sifenDeclaration] parts]] :=
    ReadsNodes.element (hsoap.nameReads_prefixed (by decide)) (by simp) (by simp) hinner
  have hattr : ∀ a ∈ [(⟨"xmlns", "soap", v.namespace⟩ : Attr)], AttrWritable a := by
    simpa using namespace_attr_writable v
  have henv := ReadsNodes.element (hsoap.nameReads_prefixed (show NCName "Envelope" by decide))
    hattr (by simp) (hheader.append hbody (elementText_head _ _ _ _))
  have hdecl : ReadsNodes (renderNodes .canonicalStyle [.instruction "xml" declarationBody]).toList
      [.instruction "xml" declarationBody] :=
    ReadsNodes.canonical ⟨declaration_writable, trivial⟩ ⟨trivial, by simp [Node.isText], trivial⟩
  have hdoc := hdecl.append henv (elementText_head _ _ _ _)
  simp only [renderNodes, String.append_empty] at hdoc
  rw [← hlist] at hdoc
  refine ⟨text, htext, ?_, ?_, ?_⟩
  · simp [readRoot, ReadsNodes.readNodes_eq hdoc, rootOf, List.findSome?_cons, Node.element?,
      requestTree, sifenDeclaration]
  · rw [hlist, ← declaration_eq]
    simp [declaration]
  · rw [hlist, List.getLast?_append, elementText_getLast]
    rfl

/-- A request text in a dialect reads in a dialect of the same namespace, as its tree. -/
theorem readAs_requestText (w v : Version) {text name : String} {parts : List Node}
    (hroot : readRoot text = .ok (some (requestTree v name parts)))
    (hhead : text.toList.head? = some '<') (hlast : text.toList.getLast? = some '>') :
    Envelope.readAs w text =
      if w.namespace = v.namespace then .ok ⟨w, requestTree v name parts, requestBody name parts⟩
      else .error (.wrongNamespace v.namespace) := by
  have htrim : trim text = text := trim_of_ends hhead hlast (by decide) (by decide)
  have hne : text.isEmpty = false := by
    cases h : text.isEmpty
    · rfl
    · simp [String.isEmpty_iff.1 h] at hhead
  unfold Envelope.readAs
  dsimp only
  rw [htrim, hroot]
  simp only [hne, Bool.false_eq_true, if_false, Bind.bind, Except.bind, Pure.pure, Except.pure,
    namespaceOf_requestTree, find_requestBody]
  by_cases h : w.namespace = v.namespace
  · simp [h, requestTree]
  · simp [h, Ne.symm h, requestTree]

/-- A request text in a named dialect is read, without knowing the dialect, in that dialect. -/
theorem read_requestText {v : Version} (hv : v = .soap12 ∨ v = .soap11) {text name : String}
    {parts : List Node} (hroot : readRoot text = .ok (some (requestTree v name parts)))
    (hhead : text.toList.head? = some '<') (hlast : text.toList.getLast? = some '>') :
    Envelope.read text = .ok ⟨v, requestTree v name parts, requestBody name parts⟩ := by
  have hread := fun w => readAs_requestText w v hroot hhead hlast
  rcases hv with rfl | rfl
  · exact (read_eq_ok_iff _ _).2 (.inl (by simp [hread]))
  · exact (read_eq_ok_iff _ _).2 (.inr (by simp [hread]))

/-! ## The values of a request -/

/-- What reading a request with a `dId` and one value gives back: the request is written and
read in its own dialect; its result element `name` is there, in the e-invoicing namespace, and
the texts of its children `dId` and `field` are the `dId` and the value as they were given. -/
def ReadsBackValues (v : Version) (p : Payload) (name field did value : String) : Prop :=
  ∃ text, buildEnvelope v (some p) = .ok text ∧
    ∃ env req, Envelope.read text = .ok env ∧ env.version = v ∧ env.result name = some req ∧
      namespaceOf req [env.body, env.root] = Invoice.sifenNamespace ∧
      (req.selectElement "dId").map Element.text = some did ∧
      (req.selectElement field).map Element.text = some value

/-- The children of a request element are found by name, and their texts are the values. -/
theorem selectElement_valueNodes {name field did value : String} (hfield : ':' ∉ field.toList)
    (hne : field ≠ "dId") (hdid : ∀ c ∈ did.toList, isXmlChar c = true)
    (hvalue : ∀ c ∈ value.toList, isXmlChar c = true) (as : List Attr) :
    ((⟨"", name, as, [valueNode "dId" did, valueNode field value]⟩ : Element).selectElement
        "dId").map Element.text = some did ∧
    ((⟨"", name, as, [valueNode "dId" did, valueNode field value]⟩ : Element).selectElement
        field).map Element.text = some value := by
  have hd : ':' ∉ "dId".toList := by simp
  have hch : (⟨"", name, as, [valueNode "dId" did, valueNode field value]⟩ : Element).childElements =
      [⟨"", "dId", [], consText (readableText did) []⟩,
        ⟨"", field, [], consText (readableText value) []⟩] := by
    simp [Element.childElements, valueNode, Node.element?]
  rw [Element.selectElement, Element.selectElement, hch]
  constructor
  · simp [answers_of_colon_free hd, text_consText hdid]
  · simp [answers_of_colon_free hfield, hne, text_consText hvalue]

/-- A request with a `dId` and one value, in a named dialect, reads back with both values as they
were given, whatever characters XML allows they hold. -/
theorem valueRequest_reads {v : Version} (hv : v = .soap12 ∨ v = .soap11) {p : Payload}
    {name field did value : String} (hname : NCName name) (hfield : NCName field)
    (hne : field ≠ "dId")
    (hp : p.markup = .ok (requestElement name [valueElement "dId" did, valueElement field value]))
    (hdid : ∀ c ∈ did.toList, isXmlChar c = true) (hvalue : ∀ c ∈ value.toList, isXmlChar c = true) :
    ReadsBackValues v p name field did value := by
  obtain ⟨text, htext, hroot, hhead, hlast⟩ :=
    readRoot_buildEnvelope v hp (requestElement_reads hname hfield did value)
  obtain ⟨hdId, hvalue'⟩ := selectElement_valueNodes hfield.2 hne hdid hvalue [sifenDeclaration]
  refine ⟨text, htext, _, _, read_requestText hv hroot hhead hlast, rfl,
    result_requestBody _ _ _ _, ?_, hdId, hvalue'⟩
  simp [namespaceOf, resolve, Element.declared]

/-- The four requests that carry values (the taxpayer lookup, the lot submission, the lot query
and the document query), built in SOAP 1.2 or SOAP 1.1, read back in that dialect: the result
element of each is in the e-invoicing namespace, and the texts of its `dId` and of its value
element are the values given, exactly, also when they hold markup, quotes, tabs, carriage
returns or line feeds. -/
theorem request_values_read_back {v : Version} (hv : v = .soap12 ∨ v = .soap11) (did value : String)
    (hdid : ∀ c ∈ did.toList, isXmlChar c = true) (hvalue : ∀ c ∈ value.toList, isXmlChar c = true) :
    ReadsBackValues v (.rucQuery did value) "rEnviConsRUC" "dRUCCons" did value ∧
    ReadsBackValues v (.lotSubmission did value) "rEnvioLote" "xDE" did value ∧
    ReadsBackValues v (.lotQuery did value) "rEnviConsLoteDe" "dProtConsLote" did value ∧
    ReadsBackValues v (.documentQuery did value) "rEnviConsDeRequest" "dCDC" did value :=
  ⟨valueRequest_reads hv (by decide) (by decide) (by decide) rfl hdid hvalue,
    valueRequest_reads hv (by decide) (by decide) (by decide) rfl hdid hvalue,
    valueRequest_reads hv (by decide) (by decide) (by decide) rfl hdid hvalue,
    valueRequest_reads hv (by decide) (by decide) (by decide) rfl hdid hvalue⟩

/-- A value holding every character that escaping names reads back in SOAP 1.1. -/
theorem markupValues_read_back :
    ReadsBackValues .soap11 (.rucQuery "7" "a<b&c\"d'e\tf\rg\nh>") "rEnviConsRUC" "dRUCCons" "7"
      "a<b&c\"d'e\tf\rg\nh>" ∧
    ReadsBackValues .soap11 (.lotSubmission "7" "a<b&c\"d'e\tf\rg\nh>") "rEnvioLote" "xDE" "7"
      "a<b&c\"d'e\tf\rg\nh>" ∧
    ReadsBackValues .soap11 (.lotQuery "7" "a<b&c\"d'e\tf\rg\nh>") "rEnviConsLoteDe" "dProtConsLote"
      "7" "a<b&c\"d'e\tf\rg\nh>" ∧
    ReadsBackValues .soap11 (.documentQuery "7" "a<b&c\"d'e\tf\rg\nh>") "rEnviConsDeRequest" "dCDC"
      "7" "a<b&c\"d'e\tf\rg\nh>" :=
  request_values_read_back (.inr rfl) "7" "a<b&c\"d'e\tf\rg\nh>" (List.all_eq_true.1 (by rfl))
    (List.all_eq_true.1 (by rfl))

end EInvoice.Soap
