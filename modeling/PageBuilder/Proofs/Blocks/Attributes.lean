import Mathlib
import PageBuilder.Page
import PageBuilder.Proofs.Markup.Attributes
import PageBuilder.Proofs.Markup.Url

/-!
# Attributes of blocks

The markup of a component has attributes of a few names only, whatever its kind and its data: those
that say how an element looks and what it says, and those that hold URLs, which are harmless
(`Attribute.Plain`).  A countdown also has the classes that its script looks for, and the identifier
that tells it from other countdowns (`Blocks.every_countdown`); no other kind has a class or an
identifier (`Kind.plain_markup`).

There is one law for each part that blocks share and one for each kind of items, and the blocks
follow from these.
-/

namespace PageBuilder

namespace Markup

/-! ## Plain attributes -/

/-- The attributes whose values a browser follows. -/
@[simp] def urlNames : List String := ["href", "src", "action"]

/-- The attributes that say how an element looks, what it says or what is put into it. -/
@[simp] def plainNames : List String :=
  ["style", "alt", "title", "aria-label", "placeholder", "name", "type", "rows", "method",
    "enctype", "target", "rel", "loading", "allowfullscreen", "sticky", "dismissible",
    "data-chart", "data-plan", "width", "height", "fill", "fill-rule", "stroke", "stroke-width",
    "opacity", "d", "x", "y", "x1", "y1", "x2", "y2", "cx", "cy", "r", "text-anchor", "font-size",
    "font-weight"]

/-- An attribute as blocks of any kind have it. -/
def Attribute.Plain (a : Attribute) : Prop := a.1 ∈ plainNames ∨ a.1 ∈ urlNames ∧ Harmless a.2

@[simp] theorem plain_mk (name value : String) :
    Attribute.Plain (name, value) ↔ name ∈ plainNames ∨ name ∈ urlNames ∧ Harmless value :=
  Iff.rfl

@[simp] theorem plain_url (name value : String) :
    (url name value).Plain ↔ name ∈ plainNames ∨ name ∈ urlNames := by
  simp [url, harmless_safeUrl]

@[simp] theorem plain_flag (name : String) :
    (flag name).Plain ↔ name ∈ plainNames ∨ name ∈ urlNames := by
  simp [flag]

@[simp] theorem plain_css (value : String) : (css value).Plain := by simp [css, plainNames]

@[simp] theorem plain_style (rules : List Rule) : (style rules).Plain := by
  simp [style, plainNames]

theorem Node.identifiers_of_plain {n : Node} (h : n.Every Attribute.Plain) :
    n.identifiers = [] := by
  refine List.flatMap_eq_nil_iff.mpr fun e he => ?_
  rw [List.map_eq_nil_iff, List.filter_eq_nil_iff]
  rintro ⟨name, value⟩ ha hid
  obtain rfl : name = "id" := beq_iff_eq.mp hid
  simpa using h e he _ ha

end Markup

namespace Blocks

open Markup
open Node (EveryAll)
open Attribute (Plain)

/-! ## Parts of blocks -/

@[simp] theorem plain_el (tag : String) (attributes : List Attribute) (children : List Node) :
    (el tag attributes children).Every Plain ↔
      (∀ a ∈ attributes, a.Plain) ∧ EveryAll children Plain :=
  Node.every_element tag attributes children

@[simp] theorem plain_leaf (tag declarations content : String) :
    (leaf tag declarations content).Every Plain := by
  simp [leaf]

@[simp] theorem plain_box (declarations : String) (children : List Node) :
    (box declarations children).Every Plain ↔ EveryAll children Plain := by
  simp [box]

@[simp] theorem plain_container (maxWidth : String) (children : List Node) :
    (container maxWidth children).Every Plain ↔ EveryAll children Plain := by
  simp [container]

@[simp] theorem plain_sectionBox (background : Option String) (children : List Node) :
    (sectionBox background children).Every Plain ↔ EveryAll children Plain := by
  simp [sectionBox]

@[simp] theorem plain_heading (content marginBottom : String) :
    (heading content marginBottom).Every Plain := by
  simp [heading]

@[simp] theorem plain_grid (minColumn gap : String) (children : List Node) :
    (grid minColumn gap children).Every Plain ↔ EveryAll children Plain := by
  simp [grid]

@[simp] theorem plain_muted (content : String) : (muted content).Every Plain := by simp [muted]

@[simp] theorem plain_card (padding : String) (attributes : List Attribute)
    (children : List Node) :
    (card padding attributes children).Every Plain ↔
      (∀ a ∈ attributes, a.Plain) ∧ EveryAll children Plain := by
  simp [card]

@[simp] theorem plain_badge (content fontSize margin : String) :
    (badge content fontSize margin).Every Plain := by
  simp [badge]

@[simp] theorem plain_button? (d : Object) : EveryAll (button? d) Plain := by
  simp [button?]

/-! ## Items -/

@[simp] theorem plain_footerColumn (column : Object) : (footerColumn column).Every Plain := by
  simp [footerColumn]

@[simp] theorem plain_socialLink (link : Object) : (socialLink link).Every Plain := by
  simp [socialLink]

@[simp] theorem plain_question (item : Object) : (question item).Every Plain := by simp [question]

@[simp] theorem plain_fold (item : Object) : (fold item).Every Plain := by simp [fold]

@[simp] theorem plain_milestone (item : Object) : (milestone item).Every Plain := by
  simp [milestone]

@[simp] theorem plain_tabButton (index : Nat) (item : Object) :
    (tabButton index item).Every Plain := by
  simp [tabButton]

@[simp] theorem plain_feature (item : Object) : (feature item).Every Plain := by simp [feature]

@[simp] theorem plain_cardItem (item : Object) : (cardItem item).Every Plain := by simp [cardItem]

@[simp] theorem plain_step (item : Object) : (step item).Every Plain := by simp [step]

@[simp] theorem plain_logo (source : String) : (logo source).Every Plain := by simp [logo]

@[simp] theorem plain_work (item : Object) : (work item).Every Plain := by simp [work]

@[simp] theorem plain_member (item : Object) : (member item).Every Plain := by simp [member]

@[simp] theorem plain_testimonial (item : Object) : (testimonial item).Every Plain := by
  simp [testimonial]

@[simp] theorem plain_stat (item : Object) : (stat item).Every Plain := by simp [stat]

@[simp] theorem plain_metric (item : Object) : (metric item).Every Plain := by simp [metric]

@[simp] theorem plain_skill (item : Object) : (skill item).Every Plain := by simp [skill]

@[simp] theorem plain_post (item : Object) : (post item).Every Plain := by simp [post]

@[simp] theorem plain_plan (item : Object) : (plan item).Every Plain := by simp [plan]

/-! ## Charts -/

@[simp] theorem plain_chartBox (height declarations : String) (children : List Node) :
    (chartBox height declarations children).Every Plain ↔ EveryAll children Plain := by
  simp [chartBox]

@[simp] theorem plain_drawnText (x y : Float) (size color content : String)
    (attributes : List Attribute) :
    (drawnText x y size color content attributes).Every Plain ↔ ∀ a ∈ attributes, a.Plain := by
  simp [drawnText]

@[simp] theorem plain_bar (b : Chart.Bar Float) : (bar b).Every Plain := by simp [bar]

@[simp] theorem plain_barGroup (g : Chart.BarGroup Float) : (barGroup g).Every Plain := by
  simp [barGroup]

@[simp] theorem plain_barChart (c : Chart.BarChart Float) (height : String) :
    (barChart c height).Every Plain := by
  simp [barChart]

@[simp] theorem plain_gridline (left right y : Float) : (gridline left right y).Every Plain := by
  simp [gridline]

@[simp] theorem plain_linePoint (l : Chart.Line Float) (p : Chart.LinePoint Float) :
    EveryAll (linePoint l p) Plain := by
  simp [linePoint]

@[simp] theorem plain_lineSeries (l : Chart.Line Float) : (lineSeries l).Every Plain := by
  simp [lineSeries]

@[simp] theorem plain_lineChart (c : Chart.LineChart Float) (height : String) :
    (lineChart c height).Every Plain := by
  simp [lineChart]

@[simp] theorem plain_slicePath (hole : Nat) (s : Chart.Slice Float) :
    (slicePath hole s).Every Plain := by
  simp [slicePath]

@[simp] theorem plain_sliceLegend (s : Chart.Slice Float) : (sliceLegend s).Every Plain := by
  simp [sliceLegend]

@[simp] theorem plain_doughnutTotal (c : Chart.PieChart Float) :
    EveryAll (doughnutTotal c) Plain := by
  simp [doughnutTotal]

@[simp] theorem plain_pieChart (c : Chart.PieChart Float) (height : String) :
    (pieChart c height).Every Plain := by
  simp [pieChart]

@[simp] theorem plain_legendRow (entries : List Chart.LegendEntry) :
    (legendRow entries).Every Plain := by
  simp [legendRow]

theorem plain_of_drawing {input : Chart.Input} {chart : Node} {legend : List Chart.LegendEntry}
    (h : drawing input = some (chart, legend)) : chart.Every Plain := by
  rw [drawing] at h
  split at h <;> cases h <;> simp

theorem plain_graph (d : Object) : (graph d).Every Plain := by
  simp only [graph, plain_box, Node.everyAll_cons, plain_leaf, Node.everyAll_nil, true_and,
    and_true]
  split
  · simp
  · rename_i chart legend hdrawing
    simp [plain_of_drawing hdrawing]

end Blocks

/-! ## Components -/

open Markup

theorem Kind.plain_markup {kind : Kind} (hk : kind ≠ .countdown) (id : Nat) (d : Object) :
    (kind.markup id d).Every Attribute.Plain := by
  cases kind with
  | hero => simp [Kind.markup, Blocks.hero]
  | text => simp [Kind.markup, Blocks.text]
  | image => simp [Kind.markup, Blocks.image]
  | features => simp [Kind.markup, Blocks.features]
  | cta => simp [Kind.markup, Blocks.cta]
  | gallery => simp [Kind.markup, Blocks.gallery]
  | team => simp [Kind.markup, Blocks.team]
  | stats => simp [Kind.markup, Blocks.stats]
  | faq => simp [Kind.markup, Blocks.faq]
  | contact => simp [Kind.markup, Blocks.contact]
  | newsletter => simp [Kind.markup, Blocks.newsletter]
  | logos => simp [Kind.markup, Blocks.logos]
  | timeline => simp [Kind.markup, Blocks.timeline]
  | video => simp [Kind.markup, Blocks.video]
  | footer => simp [Kind.markup, Blocks.footer]
  | navbar => simp [Kind.markup, Blocks.navbar]
  | blog => simp [Kind.markup, Blocks.blog]
  | imagetext => simp [Kind.markup, Blocks.imagetext]
  | callout => simp [Kind.markup, Blocks.callout]
  | progress => simp [Kind.markup, Blocks.progress]
  | social => simp [Kind.markup, Blocks.social]
  | map => simp [Kind.markup, Blocks.map]
  | testimonials => simp [Kind.markup, Blocks.testimonials]
  | pricing => simp [Kind.markup, Blocks.pricing]
  | accordion => simp [Kind.markup, Blocks.accordion]
  | tabs => simp [Kind.markup, Blocks.tabs]
  | cards => simp [Kind.markup, Blocks.cards]
  | countdown => exact absurd rfl hk
  | quote => simp [Kind.markup, Blocks.quote]
  | steps => simp [Kind.markup, Blocks.steps]
  | banner => simp [Kind.markup, Blocks.banner]
  | metrics => simp [Kind.markup, Blocks.metrics]
  | portfolio => simp [Kind.markup, Blocks.portfolio]
  | columns => simp [Kind.markup, Blocks.columns]
  | separator => simp [Kind.markup, Blocks.separator]
  | graph => exact Blocks.plain_graph d


/-! ## Countdowns -/

theorem Blocks.countdownId_injective : Function.Injective countdownId := fun _ _ h =>
  Nat.repr_injective ((String.append_right_inj _).mp h)

/-- An attribute as the block of a component has it: a plain one, or one of a countdown. -/
def Markup.Attribute.OfBlock (id : Nat) (a : Attribute) : Prop :=
  a.Plain ∨ a = ("id", Blocks.countdownId id) ∨ a ∈ Blocks.countdownUnits.map fun unit => cls unit.1

theorem Blocks.every_countdown (id : Nat) (d : Object) :
    (countdown id d).Every (Attribute.OfBlock id) := by
  simp [countdown, container, leaf, box, el, countdownUnits, countdownUnit, Attribute.OfBlock]

theorem Blocks.identifiers_countdown (id : Nat) (d : Object) :
    (countdown id d).identifiers = [countdownId id] := by
  simp [Node.identifiers, countdown, container, leaf, box, el, countdownUnits, countdownUnit,
    Node.elements, Node.elementsAll, Node.attributes, cls, css, style]

theorem Kind.every_markup (id : Nat) (d : Object) (kind : Kind) :
    (kind.markup id d).Every (Attribute.OfBlock id) := by
  by_cases hk : kind = .countdown
  · rw [hk]
    exact Blocks.every_countdown id d
  · exact (Kind.plain_markup hk id d).mono fun _ => Or.inl

theorem Component.every_content (c : Component) : c.content.Every (Attribute.OfBlock c.id) := by
  rw [Component.content]
  split
  · exact Kind.every_markup _ _ _
  · simp [Attribute.OfBlock]

end PageBuilder
