import PageBuilder.Catalog.Kind
import PageBuilder.Json.Basic

/-!
# Templates

What a new component of each kind holds.  Adding a component to a page copies its template.
-/

namespace PageBuilder

namespace Template

/-! ## Writing data down -/

scoped instance : Coe String Json := ⟨.str⟩

scoped instance : Coe Bool Json := ⟨.bool⟩

scoped instance (n : Nat) : OfNat Json n := ⟨.nat n⟩

/-- The data with these fields. -/
def data (fields : List (String × Json)) : Object := Object.ofList fields

/-- The object with these fields. -/
def record (fields : List (String × Json)) : Json := .obj (data fields)

/-! ## One template for each kind -/

/-- What a new hero component holds. -/
def hero : Object :=
  data [
    ("title", "Welcome to Your Website"), ("subtitle", "Build amazing things with drag and drop"),
    ("buttonText", "Get Started"), ("buttonUrl", "#"), ("background", "#f5f5f5"),
    ("backgroundType", "solid"), ("gradientStart", "#667eea"), ("gradientEnd", "#764ba2"),
    ("textAlign", "center"), ("minHeight", "400px"), ("textColor", "#1a1a1a"),
    ("buttonColor", "#0066cc"), ("buttonTextColor", "#ffffff")]

/-- What a new text component holds. -/
def text : Object :=
  data [
    ("heading", "About Us"),
    ("content", "Tell your story here. Add your content and customize it to match your brand."),
    ("headingSize", "2rem"), ("textAlign", "left"), ("backgroundColor", "#ffffff")]

/-- What a new image component holds. -/
def image : Object :=
  data [
    ("src", "https://images.unsplash.com/photo-1498050108023-c5249f4df085?w=800"),
    ("alt", "Featured Image"), ("width", "100%"), ("maxWidth", "1000px"), ("borderRadius", "1rem"),
    ("alignment", "center")]

/-- What a new features component holds. -/
def features : Object :=
  data [
    ("heading", "Our Features"), ("backgroundColor", "#f8fafc"),
    ("features", .arr [
      record [("icon", "⚡"), ("title", "Fast"), ("description", "Lightning quick performance")],
      record [("icon", "🔒"), ("title", "Secure"), ("description", "Your data is safe")],
      record [("icon", "📱"), ("title", "Responsive"), ("description", "Works on all devices")]])]

/-- What a new cta component holds. -/
def cta : Object :=
  data [
    ("heading", "Ready to Get Started?"), ("subtitle", "Join thousands of users today"),
    ("buttonText", "Sign Up Now"), ("buttonUrl", "#"), ("backgroundType", "gradient"),
    ("backgroundColor", "#0066cc"), ("gradientStart", "#0066cc"), ("gradientEnd", "#00a8ff"),
    ("textColor", "#ffffff"), ("buttonColor", "#ffffff"), ("buttonTextColor", "#0066cc")]

/-- What a new gallery component holds. -/
def gallery : Object :=
  data [
    ("images", .arr [
      "https://images.unsplash.com/photo-1460925895917-afdab827c52f?w=400",
      "https://images.unsplash.com/photo-1516321318423-f06f85e504b3?w=400",
      "https://images.unsplash.com/photo-1504868584819-f8e8b4b6d7e3?w=400",
      "https://images.unsplash.com/photo-1551288049-bebda4e38f71?w=400"]),
    ("columns", "auto-fit"), ("gap", "1rem"), ("imageHeight", "250px")]

/-- What a new team component holds. -/
def team : Object :=
  data [
    ("heading", "Meet Our Team"),
    ("members", .arr [
      record [("name", "John Doe"), ("role", "CEO & Founder"),
              ("image", "https://images.unsplash.com/photo-1472099645785-5658abf4ff4e?w=400"),
              ("bio", "Leading the company vision")],
      record [("name", "Jane Smith"), ("role", "CTO"),
              ("image", "https://images.unsplash.com/photo-1438761681033-6461ffad8d80?w=400"),
              ("bio", "Technology expert")],
      record [("name", "Mike Johnson"), ("role", "Designer"),
              ("image", "https://images.unsplash.com/photo-1500648767791-00dcc994a43e?w=400"),
              ("bio", "Creative director")]])]

/-- What a new stats component holds. -/
def stats : Object :=
  data [
    ("backgroundColor", "#f8fafc"),
    ("stats", .arr [
      record [("number", "10K+"), ("label", "Happy Customers")],
      record [("number", "50+"), ("label", "Team Members")],
      record [("number", "99%"), ("label", "Satisfaction Rate")],
      record [("number", "24/7"), ("label", "Support")]])]

/-- What a new faq component holds. -/
def faq : Object :=
  data [
    ("heading", "Frequently Asked Questions"),
    ("faqs", .arr [
      record [("question", "How does it work?"),
              ("answer", "Our platform is easy to use and intuitive. Simply sign up and start building.")],
      record [("question", "What are the pricing plans?"),
              ("answer", "We offer flexible pricing plans to suit every need and budget.")],
      record [("question", "Is there a free trial?"),
              ("answer", "Yes! We offer a 14-day free trial with no credit card required.")]])]

/-- What a new contact component holds. -/
def contact : Object :=
  data [
    ("heading", "Get In Touch"), ("subtitle", "We'd love to hear from you"),
    ("backgroundColor", "#ffffff")]

/-- What a new newsletter component holds. -/
def newsletter : Object :=
  data [
    ("heading", "Subscribe to Our Newsletter"), ("subtitle", "Get the latest updates and news"),
    ("buttonText", "Subscribe"), ("backgroundType", "gradient"), ("gradientStart", "#667eea"),
    ("gradientEnd", "#764ba2")]

/-- What a new logos component holds. -/
def logos : Object :=
  data [
    ("heading", "Trusted By Leading Companies"),
    ("logos", .arr [
      "https://via.placeholder.com/150x60?text=Company+1",
      "https://via.placeholder.com/150x60?text=Company+2",
      "https://via.placeholder.com/150x60?text=Company+3",
      "https://via.placeholder.com/150x60?text=Company+4"])]

/-- What a new timeline component holds. -/
def timeline : Object :=
  data [
    ("heading", "Our Journey"),
    ("events", .arr [
      record [("year", "2020"), ("title", "Company Founded"),
              ("description", "Started our journey")],
      record [("year", "2021"), ("title", "First Product"),
              ("description", "Launched our flagship product")],
      record [("year", "2022"), ("title", "10K Users"),
              ("description", "Reached major milestone")],
      record [("year", "2023"), ("title", "Global Expansion"),
              ("description", "Expanded to 50 countries")]])]

/-- What a new video component holds. -/
def video : Object :=
  data [
    ("url", "https://www.youtube.com/embed/dQw4w9WgXcQ"), ("title", "Watch Our Video"),
    ("aspectRatio", "16/9"), ("maxWidth", "800px")]

/-- What a new footer component holds. -/
def footer : Object :=
  data [
    ("companyName", "Your Company"), ("tagline", "Building amazing products"),
    ("columns", .arr [
      record [("title", "Product"), ("links", .arr ["Features", "Pricing", "Security"])],
      record [("title", "Company"), ("links", .arr ["About", "Blog", "Careers"])],
      record [("title", "Support"), ("links", .arr ["Help Center", "Contact", "Status"])]]),
    ("copyright", "© 2025 Your Company. All rights reserved.")]

/-- What a new navbar component holds. -/
def navbar : Object :=
  data [
    ("brand", "Your Brand"), ("links", .arr ["Home", "About", "Services", "Contact"]),
    ("ctaText", "Get Started"), ("ctaUrl", "#"), ("backgroundColor", "#ffffff"), ("sticky", true)]

/-- What a new blog component holds. -/
def blog : Object :=
  data [
    ("heading", "Latest Articles"),
    ("posts", .arr [
      record [("image", "https://images.unsplash.com/photo-1499750310107-5fef28a66643?w=400"),
              ("title", "Getting Started with Web Development"),
              ("excerpt", "Learn the basics of modern web development and build your first website."),
              ("date", "Jan 15, 2025"), ("readTime", "5 min read"), ("link", "#")],
      record [("image", "https://images.unsplash.com/photo-1498050108023-c5249f4df085?w=400"),
              ("title", "Design Tips for Beginners"),
              ("excerpt", "Master the fundamentals of good design with these simple tips."),
              ("date", "Jan 10, 2025"), ("readTime", "4 min read"), ("link", "#")],
      record [("image", "https://images.unsplash.com/photo-1504868584819-f8e8b4b6d7e3?w=400"),
              ("title", "Building Responsive Layouts"),
              ("excerpt", "Create websites that look great on any device with responsive design."),
              ("date", "Jan 5, 2025"), ("readTime", "6 min read"), ("link", "#")]])]

/-- What a new imagetext component holds. -/
def imagetext : Object :=
  data [
    ("image", "https://images.unsplash.com/photo-1522071820081-009f0129c71c?w=600"),
    ("heading", "Our Story"),
    ("text", "We are passionate about creating amazing experiences. Our team works tirelessly to deliver the best products and services to our customers."),
    ("buttonText", "Learn More"), ("buttonUrl", "#"), ("imagePosition", "left"),
    ("backgroundColor", "#ffffff"), ("textColor", "#1a1a1a"), ("buttonColor", "#0066cc"),
    ("buttonTextColor", "#ffffff")]

/-- What a new callout component holds. -/
def callout : Object :=
  data [
    ("icon", "💡"), ("heading", "Pro Tip"),
    ("text", "This is important information that you should pay attention to. Use callouts to highlight key points."),
    ("backgroundColor", "#fef3c7"), ("borderColor", "#f59e0b")]

/-- What a new progress component holds. -/
def progress : Object :=
  data [
    ("heading", "Our Skills"),
    ("skills", .arr [
      record [("name", "Web Development"), ("percentage", 90)],
      record [("name", "UI/UX Design"), ("percentage", 85)],
      record [("name", "Marketing"), ("percentage", 75)],
      record [("name", "Project Management"), ("percentage", 80)]])]

/-- What a new social component holds. -/
def social : Object :=
  data [
    ("heading", "Follow Us"),
    ("links", .arr [
      record [("platform", "Facebook"), ("url", "https://facebook.com"), ("icon", "f")],
      record [("platform", "Twitter"), ("url", "https://twitter.com"), ("icon", "𝕏")],
      record [("platform", "Instagram"), ("url", "https://instagram.com"), ("icon", "📷")],
      record [("platform", "LinkedIn"), ("url", "https://linkedin.com"), ("icon", "in")],
      record [("platform", "YouTube"), ("url", "https://youtube.com"), ("icon", "▶")]])]

/-- What a new map component holds. -/
def map : Object :=
  data [
    ("heading", "Visit Us"), ("address", "123 Main Street, City, State 12345"),
    ("embedUrl", "https://www.google.com/maps/embed?pb=!1m18!1m12!1m3!1d3024.2219901290355!2d-74.00369368400567!3d40.71312937933185!2m3!1f0!2f0!3f0!3m2!1i1024!2i768!4f13.1!3m3!1m2!1s0x89c25a23e28c1191%3A0x49f75d3281df052a!2sBroadway%2C%20New%20York%2C%20NY%2C%20USA!5e0!3m2!1sen!2s!4v1234567890")]

/-- What a new testimonials component holds. -/
def testimonials : Object :=
  data [
    ("heading", "What Our Customers Say"),
    ("testimonials", .arr [
      record [("rating", 5), ("text", "Absolutely amazing service! Highly recommend."),
              ("name", "Sarah Johnson"), ("role", "CEO, TechCorp")],
      record [("rating", 5), ("text", "Great experience from start to finish."),
              ("name", "Mike Davis"), ("role", "Founder, StartupXYZ")],
      record [("rating", 5), ("text", "Professional and reliable. Will use again!"),
              ("name", "Emily Chen"), ("role", "Marketing Director")]])]

/-- What a new pricing component holds. -/
def pricing : Object :=
  data [
    ("heading", "Choose Your Plan"),
    ("plans", .arr [
      record [("name", "Basic"), ("price", "9"),
              ("features", .arr ["Feature 1", "Feature 2", "Feature 3"]),
              ("buttonText", "Get Started"), ("buttonUrl", "#")],
      record [("name", "Pro"), ("price", "29"),
              ("features", .arr ["All Basic features", "Feature 4", "Feature 5", "Priority Support"]),
              ("buttonText", "Get Started"), ("buttonUrl", "#")],
      record [("name", "Enterprise"), ("price", "99"),
              ("features", .arr ["All Pro features", "Custom integrations", "Dedicated support", "SLA"]),
              ("buttonText", "Contact Us"), ("buttonUrl", "#")]])]

/-- What a new accordion component holds. -/
def accordion : Object :=
  data [
    ("heading", "Frequently Asked Questions"),
    ("items", .arr [
      record [("title", "What is your return policy?"),
              ("content", "We offer a 30-day money-back guarantee on all purchases.")],
      record [("title", "How long does shipping take?"),
              ("content", "Standard shipping takes 5-7 business days. Express shipping is 2-3 days.")],
      record [("title", "Do you ship internationally?"),
              ("content", "Yes, we ship to over 100 countries worldwide.")]])]

/-- What a new tabs component holds. -/
def tabs : Object :=
  data [
    ("tabs", .arr [
      record [("title", "Features"),
              ("content", "Discover all the amazing features our product offers.")],
      record [("title", "Pricing"),
              ("content", "Simple and transparent pricing for everyone.")],
      record [("title", "Support"),
              ("content", "Get help when you need it with our 24/7 support team.")]])]

/-- What a new cards component holds. -/
def cards : Object :=
  data [
    ("heading", "Our Services"),
    ("cards", .arr [
      record [("icon", "🎨"), ("title", "Design"),
              ("description", "Beautiful, modern designs that convert.")],
      record [("icon", "💻"), ("title", "Development"),
              ("description", "Clean, scalable code built to last.")],
      record [("icon", "🚀"), ("title", "Marketing"),
              ("description", "Strategies that drive real results.")]])]

/-- What a new countdown component holds. -/
def countdown : Object :=
  data [
    ("heading", "Product Launch"), ("subtitle", "Coming Soon"), ("targetDate", "2025-12-31"),
    ("targetTime", "23:59:59"), ("backgroundColor", "#667eea"), ("textColor", "#ffffff")]

/-- What a new quote component holds. -/
def quote : Object :=
  data [
    ("quote", "The best way to predict the future is to create it."), ("author", "Peter Drucker"),
    ("backgroundColor", "#f8fafc"), ("quoteSize", "2rem")]

/-- What a new steps component holds. -/
def steps : Object :=
  data [
    ("heading", "How It Works"),
    ("steps", .arr [
      record [("number", "1"), ("title", "Sign Up"),
              ("description", "Create your free account in seconds")],
      record [("number", "2"), ("title", "Customize"),
              ("description", "Choose your design and settings")],
      record [("number", "3"), ("title", "Launch"),
              ("description", "Go live with your new website")]])]

/-- What a new banner component holds. -/
def banner : Object :=
  data [
    ("text", "Special Offer: Get 50% off for a limited time!"), ("buttonText", "Learn More"),
    ("buttonUrl", "#"), ("backgroundColor", "#0066cc"), ("textColor", "#ffffff"),
    ("dismissible", true)]

/-- What a new metrics component holds. -/
def metrics : Object :=
  data [
    ("metrics", .arr [
      record [("number", "99%"), ("label", "Customer Satisfaction"), ("icon", "😊")],
      record [("number", "10K+"), ("label", "Active Users"), ("icon", "👥")],
      record [("number", "50M+"), ("label", "Downloads"), ("icon", "📥")],
      record [("number", "24/7"), ("label", "Support"), ("icon", "🛟")]]),
    ("backgroundColor", "#ffffff")]

/-- What a new portfolio component holds. -/
def portfolio : Object :=
  data [
    ("heading", "Our Work"),
    ("projects", .arr [
      record [("image", "https://images.unsplash.com/photo-1460925895917-afdab827c52f?w=500"),
              ("title", "Project Alpha"), ("category", "Web Design")],
      record [("image", "https://images.unsplash.com/photo-1504868584819-f8e8b4b6d7e3?w=500"),
              ("title", "Project Beta"), ("category", "Branding")],
      record [("image", "https://images.unsplash.com/photo-1551288049-bebda4e38f71?w=500"),
              ("title", "Project Gamma"), ("category", "Development")],
      record [("image", "https://images.unsplash.com/photo-1551650975-87deedd944c3?w=500"),
              ("title", "Project Delta"), ("category", "Marketing")]])]

/-- What a new columns component holds. -/
def columns : Object :=
  data [
    ("columnCount", 2),
    ("columns", .arr [
      record [("content", "This is the first column content. You can add any text here.")],
      record [("content", "This is the second column content. Great for side-by-side comparisons.")]]),
    ("backgroundColor", "#ffffff")]

/-- What a new separator component holds. -/
def separator : Object :=
  data [
    ("style", "solid"), ("width", "50%"), ("color", "#e2e8f0"), ("thickness", "2px"),
    ("spacing", "3rem")]

/-- What a new graph component holds. -/
def graph : Object :=
  data [
    ("heading", "Sales Performance"), ("chartType", "bar"),
    ("labels", .arr ["Jan", "Feb", "Mar", "Apr", "May", "Jun"]),
    ("datasets", .arr [
      record [("label", "Sales 2024"), ("data", .arr [65, 59, 80, 81, 56, 55]),
              ("color", "#0066cc")],
      record [("label", "Sales 2023"), ("data", .arr [45, 49, 60, 71, 46, 45]),
              ("color", "#764ba2")]]),
    ("showLegend", true), ("height", "400px")]

end Template

/-- What a new component of a kind holds. -/
def Kind.template : Kind → Object
  | .hero => Template.hero
  | .text => Template.text
  | .image => Template.image
  | .features => Template.features
  | .cta => Template.cta
  | .gallery => Template.gallery
  | .team => Template.team
  | .stats => Template.stats
  | .faq => Template.faq
  | .contact => Template.contact
  | .newsletter => Template.newsletter
  | .logos => Template.logos
  | .timeline => Template.timeline
  | .video => Template.video
  | .footer => Template.footer
  | .navbar => Template.navbar
  | .blog => Template.blog
  | .imagetext => Template.imagetext
  | .callout => Template.callout
  | .progress => Template.progress
  | .social => Template.social
  | .map => Template.map
  | .testimonials => Template.testimonials
  | .pricing => Template.pricing
  | .accordion => Template.accordion
  | .tabs => Template.tabs
  | .cards => Template.cards
  | .countdown => Template.countdown
  | .quote => Template.quote
  | .steps => Template.steps
  | .banner => Template.banner
  | .metrics => Template.metrics
  | .portfolio => Template.portfolio
  | .columns => Template.columns
  | .separator => Template.separator
  | .graph => Template.graph

end PageBuilder
