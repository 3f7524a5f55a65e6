import PageBuilder.Catalog.Kind
import PageBuilder.Blocks.Lead
import PageBuilder.Blocks.Content
import PageBuilder.Blocks.Navigation
import PageBuilder.Blocks.Collection
import PageBuilder.Blocks.Story
import PageBuilder.Blocks.Countdown
import PageBuilder.Blocks.Graph

/-!
# Blocks by kind

The markup of a component, whatever its kind and its data.
-/

namespace PageBuilder

/-- The markup of a component of some kind, from its id and its data. -/
def Kind.markup (id : Nat) (d : Object) : Kind → Markup.Node
  | .hero => Blocks.hero d
  | .text => Blocks.text d
  | .image => Blocks.image d
  | .features => Blocks.features d
  | .cta => Blocks.cta d
  | .gallery => Blocks.gallery d
  | .team => Blocks.team d
  | .stats => Blocks.stats d
  | .faq => Blocks.faq d
  | .contact => Blocks.contact d
  | .newsletter => Blocks.newsletter d
  | .logos => Blocks.logos d
  | .timeline => Blocks.timeline d
  | .video => Blocks.video d
  | .footer => Blocks.footer d
  | .navbar => Blocks.navbar d
  | .blog => Blocks.blog d
  | .imagetext => Blocks.imagetext d
  | .callout => Blocks.callout d
  | .progress => Blocks.progress d
  | .social => Blocks.social d
  | .map => Blocks.map d
  | .testimonials => Blocks.testimonials d
  | .pricing => Blocks.pricing d
  | .accordion => Blocks.accordion d
  | .tabs => Blocks.tabs d
  | .cards => Blocks.cards d
  | .countdown => Blocks.countdown id d
  | .quote => Blocks.quote d
  | .steps => Blocks.steps d
  | .banner => Blocks.banner d
  | .metrics => Blocks.metrics d
  | .portfolio => Blocks.portfolio d
  | .columns => Blocks.columns d
  | .separator => Blocks.separator d
  | .graph => Blocks.graph d

end PageBuilder
