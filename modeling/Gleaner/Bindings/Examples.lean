import Gleaner.Bindings.Basic

/-!
# Example bindings

Records for two well-known job boards.
-/

set_option autoImplicit false

namespace Gleaner.Examples

def linkedinJobs (now : Float) : PageBindings where
  id := "linkedin_jobs_v1"
  urlPattern := "linkedin.com/jobs"
  updatedAt := now
  searchBox := some ".jobs-search-box__text-input"
  list := ".jobs-search-results-list"
  listItem := ".jobs-search-results__list-item"
  listItemActive := some ".jobs-search-results__list-item--active"
  detailsPanel := some ".jobs-details"
  detailsContent := [".jobs-unified-top-card", ".jobs-description-content"]
  elements :=
    [("sortDropdown", ".jobs-search-sort-button"),
      ("showResults", ".filter-show-results-button")]
  scrollContainer := some ".jobs-search-results-list"
  states :=
    { pageLoaded := some (.present ".jobs-search-results-list")
      listLoaded := some (.present ".jobs-search-results__list-item")
      listUpdated := some (.countChanged ".jobs-search-results__list-item")
      detailsLoaded := some (.present ".jobs-description-content")
      noMoreItems := some (.anyOf
        [.present ".jobs-search-no-results",
          .present ".jobs-search-results__list-item[data-is-last=\"true\"]"])
      loading := some (.present ".jobs-search-results__loader") }
  itemId := some
    { source := .href
      selector := some "a[href*=\"/jobs/view/\"]"
      pattern := some "/jobs/view/(\\d+)" }
  scrollBehavior := some .infinite
  clickBehavior := some .showsPanel

def indeedJobs (now : Float) : PageBindings where
  id := "indeed_jobs_v1"
  urlPattern := "indeed.com/jobs"
  updatedAt := now
  searchBox := some "#text-input-what"
  list := ".jobsearch-ResultsList"
  listItem := ".job_seen_beacon"
  detailsPanel := some ".jobsearch-ViewJobLayout"
  detailsContent := [".jobsearch-JobInfoHeader", ".jobsearch-JobComponent-description"]
  elements :=
    [("sortDropdown", "#filter-dateposted"),
      ("findJobsButton", ".yosegi-InlineWhatWhere-primaryButton")]
  nextPageButton := some "[data-testid=\"pagination-page-next\"]"
  states :=
    { pageLoaded := some (.present ".jobsearch-ResultsList")
      listLoaded := some (.present ".job_seen_beacon")
      listUpdated := some (.countChanged ".job_seen_beacon")
      detailsLoaded := some (.present ".jobsearch-JobComponent-description")
      noMoreItems := some (.present ".jobsearch-NoResults") }
  itemId := some
    { source := .attr
      selector := some "a[data-jk]"
      attrName := some "data-jk" }
  scrollBehavior := some .paginated
  clickBehavior := some .showsPanel

def all (now : Float) : Entries PageBindings :=
  [("linkedin_jobs", linkedinJobs now), ("indeed_jobs", indeedJobs now)]

end Gleaner.Examples
