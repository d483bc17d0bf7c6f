import PlanCompiler.Strategy.Basic

/-!
# Built-in strategies

The strategies that a new catalog is seeded with. None of them is custom, so none can be deleted.
-/

namespace PlanCompiler.BuiltIn

/-- An input field given by its id, its label and its kind. -/
def field (id label : String) (type : FieldType) : InputField :=
  { id, label, type }

/-- A paragraph that a toggle adds while it is on. -/
def onlyWhenTrue (paragraph : String) : Option ConditionalText :=
  some { whenTrue := some paragraph }

/-- A paragraph that a toggle adds while it is off. -/
def onlyWhenFalse (paragraph : String) : Option ConditionalText :=
  some { whenFalse := some paragraph }

/-- Summary of the first steps to take after the planning meeting. -/
def priorityActions : Strategy :=
  { id := "priority-actions"
    title := "Priority Actions"
    description := "Summary of the first steps to take after the planning meeting"
    category := "Planning"
    sectionKey := some "recommendations"
    content :=
      "Within the next \x7b\x7btimeframe\x7d\x7d, focus on the actions below in the order " ++
      "they appear in this plan."
    inputFields := [
      { field "timeframe" "Timeframe for first actions" .select with
          options := some ["30 days", "90 days", "6 months", "12 months"]
          defaultValue := some (.text "90 days") }] }

/-- Build and maintain 3-6 months of expenses in liquid savings. -/
def emergencyFund : Strategy :=
  { id := "emergency-fund"
    title := "Emergency Fund Strategy"
    description := "Build and maintain 3-6 months of expenses in liquid savings"
    category := "Savings"
    sectionKey := some "buildNetWorth"
    content :=
      "Keep an emergency fund of \x7b\x7bmonths\x7d\x7d months of living expenses in a " ++
      "high-interest savings account or a Tax-Free Savings Account (TFSA), separate from " ++
      "other savings goals."
    inputFields := [
      { field "months" "Months of expenses" .number with
          defaultValue := some (.integer 6) }] }

/-- Systematic approach to eliminate high-interest debt. -/
def debtReduction : Strategy :=
  { id := "debt-reduction"
    title := "Debt Reduction Plan"
    description := "Systematic approach to eliminate high-interest debt"
    category := "Debt Management"
    sectionKey := some "buildNetWorth"
    content :=
      "Pay down debt with the \x7b\x7bmethod\x7d\x7d method while keeping minimum payments " ++
      "on every account. Direct an extra \x7b\x7bextraPayment\x7d\x7d per month to the " ++
      "targeted balance."
    inputFields := [
      { field "method" "Repayment method" .select with
          options := some [
            "avalanche (highest interest first)",
            "snowball (smallest balance first)"]
          defaultValue := some (.text "avalanche (highest interest first)") },
      { field "extraPayment" "Extra monthly payment" .text with
          placeholder := some "$250" }] }

/-- Maximize RRSP contributions and employer matching. -/
def rrspOptimization : Strategy :=
  { id := "rrsp-optimization"
    title := "RRSP Optimization Strategy"
    description := "Maximize RRSP contributions and employer matching"
    category := "Retirement"
    sectionKey := some "buildNetWorth"
    content :=
      "Contribute to your Registered Retirement Savings Plan (RRSP) for an immediate tax " ++
      "deduction and tax-deferred growth. Capture the full employer match before making " ++
      "additional contributions." }

/-- Fully utilize Tax-Free Savings Account room. -/
def tfsaMaximization : Strategy :=
  { id := "tfsa-maximization"
    title := "TFSA Maximization Strategy"
    description := "Fully utilize Tax-Free Savings Account room"
    category := "Savings"
    sectionKey := some "buildNetWorth"
    content :=
      "Use your available TFSA room each year. Growth and withdrawals are tax-free, and " ++
      "withdrawn amounts are added back to your room the following January." }

/-- Build portfolio with Canadian and international exposure. -/
def investmentPortfolioCanadian : Strategy :=
  { id := "investment-portfolio-canadian"
    title := "Canadian Diversified Investment Portfolio"
    description := "Build portfolio with Canadian and international exposure"
    category := "Investing"
    sectionKey := some "buildNetWorth"
    content :=
      "Hold a diversified mix of Canadian equity, international developed and emerging " ++
      "markets, and bonds, with about \x7b\x7bcanadianEquityPercent\x7d\x7d% in Canadian " ++
      "equity. Prefer Canadian-listed ETFs in taxable accounts to limit foreign withholding " ++
      "tax."
    inputFields := [
      { field "canadianEquityPercent" "Canadian equity share (%)" .number with
          defaultValue := some (.integer 30) }] }

/-- Optimize Quebec and Canada Pension Plan benefits. -/
def qppCppOptimization : Strategy :=
  { id := "qpp-cpp-optimization"
    title := "QPP/CPP Optimization Strategy"
    description := "Optimize Quebec and Canada Pension Plan benefits"
    category := "Retirement"
    sectionKey := some "buildNetWorth"
    content :=
      "Plan to start QPP/CPP benefits at age \x7b\x7bclaimAge\x7d\x7d. Each year of delay " ++
      "past 65 raises the pension, up to 42% more at 70; weigh this against OAS and personal " ++
      "savings."
    inputFields := [
      { field "claimAge" "Planned claiming age" .select with
          options := some ["60", "65", "70"]
          defaultValue := some (.text "65") }] }

/-- Leverage Canadian programs for home ownership. -/
def firstTimeHomebuyer : Strategy :=
  { id := "first-time-homebuyer"
    title := "First-Time Home Buyer Strategy"
    description := "Leverage Canadian programs for home ownership"
    category := "Real Estate"
    sectionKey := some "buildNetWorth"
    content :=
      "Plan a down payment of \x7b\x7bdownPayment\x7d\x7d toward the purchase. The Home " ++
      "Buyers' Plan lets you withdraw from your RRSP for a first home; budget for land " ++
      "transfer tax, legal fees and an inspection."
    inputFields := [
      { field "downPayment" "Target down payment" .text with
          required := true }] }

/-- Evaluate non-registered account tax efficiency. -/
def taxEfficiencyAssessment : Strategy :=
  { id := "tax-efficiency-assessment"
    title := "Tax Efficiency Assessment"
    description := "Evaluate non-registered account tax efficiency"
    category := "Tax Planning"
    sectionKey := some "implementingTaxStrategies"
    content :=
      "Review non-registered investment accounts for opportunities created by the dividend " ++
      "tax credit and capital gains treatment."
    inputFields := [
      { field "significantNonRegistered"
          "Is there a significant non-registered account?" .toggle with
          defaultValue := some (.boolean false)
          conditionalText := onlyWhenTrue
            ("Hold Canadian eligible dividends and growth investments in the non-registered " ++
            "account and interest-bearing investments in registered accounts.") }] }

/-- Offset capital gains with realized investment losses. -/
def taxLossHarvesting : Strategy :=
  { id := "tax-loss-harvesting"
    title := "Tax Loss Harvesting"
    description := "Offset capital gains with realized investment losses"
    category := "Tax Planning"
    sectionKey := some "implementingTaxStrategies"
    content :=
      "Realize investment losses to offset capital gains, observing the 30-day superficial " ++
      "loss rule. Net capital losses can be carried back three years or forward indefinitely." }

/-- Minimize combined federal and Quebec provincial tax burden. -/
def quebecTaxOptimization : Strategy :=
  { id := "quebec-tax-optimization"
    title := "Quebec Tax Optimization Strategy"
    description := "Minimize combined federal and Quebec provincial tax burden"
    category := "Tax Planning"
    sectionKey := some "implementingTaxStrategies"
    content :=
      "File separate federal and Quebec returns and plan deductions against the combined " ++
      "marginal rate. Claim Quebec credits for childcare, medical expenses and donations, " ++
      "and split income where the rules allow." }

/-- Optimize RRIF withdrawals for tax efficiency. -/
def rrifWithdrawalStrategy : Strategy :=
  { id := "rrif-withdrawal-strategy"
    title := "RRIF Withdrawal Strategy"
    description := "Optimize RRIF withdrawals for tax efficiency"
    category := "Retirement"
    sectionKey := some "implementingTaxStrategies"
    content :=
      "Plan RRIF withdrawals, mandatory from age 71, with pension income splitting between " ++
      "spouses. Take voluntary withdrawals in lower-income years to smooth taxable income " ++
      "and stay below the OAS clawback threshold." }

/-- Optimize capital gains realization and lifetime exemption. -/
def capitalGainsOptimization : Strategy :=
  { id := "capital-gains-optimization"
    title := "Capital Gains Tax Strategy"
    description := "Optimize capital gains realization and lifetime exemption"
    category := "Tax Planning"
    sectionKey := some "implementingTaxStrategies"
    content :=
      "Time the realization of capital gains across tax years and use the lifetime capital " ++
      "gains exemption on qualified small business shares and farm or fishing property." }

/-- Ensure adequate life, disability and critical illness protection. -/
def insuranceReview : Strategy :=
  { id := "insurance-review"
    title := "Insurance Coverage Review"
    description := "Ensure adequate life, disability and critical illness protection"
    category := "Insurance"
    sectionKey := some "protectingWhatMatters"
    content :=
      "Review life insurance needs, commonly \x7b\x7bincomeMultiple\x7d\x7d times annual " ++
      "income, covering mortgage, income replacement and final expenses. Check disability " ++
      "coverage against employer benefits."
    inputFields := [
      { field "incomeMultiple" "Income multiple" .number with
          defaultValue := some (.integer 10) },
      { field "hasCriticalIllness"
          "Does the client hold critical illness coverage?" .toggle with
          defaultValue := some (.boolean false)
          conditionalText := onlyWhenFalse
            ("Consider critical illness insurance to complement provincial healthcare " ++
            "coverage.") }] }

/-- Maximize OAS benefits and minimize clawbacks. -/
def oasOptimization : Strategy :=
  { id := "oas-optimization"
    title := "Old Age Security Optimization"
    description := "Maximize OAS benefits and minimize clawbacks"
    category := "Retirement"
    sectionKey := some "protectingWhatMatters"
    content :=
      "Keep net income below the OAS recovery tax threshold through income splitting, timed " ++
      "RRSP and RRIF withdrawals and planned capital gains. Check eligibility for the " ++
      "Guaranteed Income Supplement." }

/-- Assess executor capability for estate management. -/
def estateExecutorReview : Strategy :=
  { id := "estate-executor-review"
    title := "Estate Executor Review"
    description := "Assess executor capability for estate management"
    category := "Estate Planning"
    sectionKey := some "leavingALegacy"
    content := "Confirm that the executor named in your will can administer the estate."
    inputFields := [
      { field "executorCapable" "Is the executor able to handle the estate?" .toggle with
          defaultValue := some (.boolean true)
          conditionalText := onlyWhenFalse
            "Consider appointing a trust company or a professional executor." }] }

/-- Create estate planning documents under Quebec civil law. -/
def estatePlanningQuebec : Strategy :=
  { id := "estate-planning-quebec"
    title := "Quebec Estate Planning Essentials"
    description := "Create estate planning documents under Quebec civil law"
    category := "Estate Planning"
    sectionKey := some "leavingALegacy"
    content :=
      "Prepare a will that meets Civil Code of Quebec requirements, preferably a notarial " ++
      "will, and a protection mandate in case of incapacity. Review beneficiary designations " ++
      "on RRSPs, RRIFs, TFSAs and insurance policies." }

/-- Determine if a testamentary trust is appropriate under Quebec law. -/
def testamentaryTrustAnalysis : Strategy :=
  { id := "testamentary-trust-analysis"
    title := "Testamentary Trust Analysis"
    description := "Determine if a testamentary trust is appropriate under Quebec law"
    category := "Estate Planning"
    sectionKey := some "leavingALegacy"
    content :=
      "Assess whether a testamentary trust suits your beneficiaries under the Civil Code of " ++
      "Quebec."
    inputFields := [
      { field "testamentaryTrustRelevant" "Is a testamentary trust relevant?" .toggle with
          defaultValue := some (.boolean false)
          conditionalText := onlyWhenTrue
            ("A testamentary trust can offer tax advantages and asset protection, " ++
            "particularly for minor children or beneficiaries who need financial guidance.") }] }

/-- Save for children's education with a Registered Education Savings Plan. -/
def respEducationFunding : Strategy :=
  { id := "resp-education-funding"
    title := "RESP Education Funding Plan"
    description := "Save for children's education with a Registered Education Savings Plan"
    category := "Education"
    sectionKey := some "leavingALegacy"
    content :=
      "Contribute \x7b\x7bannualContribution\x7d\x7d per year to an RESP to collect the 20% " ++
      "Canada Education Savings Grant on the first $2,500 contributed annually."
    inputFields := [
      { field "annualContribution" "Annual contribution" .number with
          defaultValue := some (.integer 2500) }] }

/-- Optimize charitable donations for tax efficiency. -/
def charitableGiving : Strategy :=
  { id := "charitable-giving"
    title := "Charitable Giving Strategy"
    description := "Optimize charitable donations for tax efficiency"
    category := "Tax Planning"
    sectionKey := some "leavingALegacy"
    content :=
      "Donate appreciated securities in kind to eliminate the capital gain and claim the " ++
      "donation credit on the full market value." }

/-- The built-in strategies, in the order in which they are added. -/
def all : List Strategy :=
  [priorityActions, emergencyFund, debtReduction, rrspOptimization, tfsaMaximization,
    investmentPortfolioCanadian, qppCppOptimization, firstTimeHomebuyer, taxEfficiencyAssessment,
    taxLossHarvesting, quebecTaxOptimization, rrifWithdrawalStrategy, capitalGainsOptimization,
    insuranceReview, oasOptimization, estateExecutorReview, estatePlanningQuebec,
    testamentaryTrustAnalysis, respEducationFunding, charitableGiving]

end PlanCompiler.BuiltIn
